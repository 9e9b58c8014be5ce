import MotherApi.Lib.Distinct
import MotherApi.Lib.Fallible
import MotherApi.Lib.Tables
import MotherApi.Strings
import Mathlib.Data.List.FinRange
import Mathlib.Data.List.Sort
import Mathlib.Data.Prod.Lex
import Mathlib.Data.String.Basic

/-!
The canonical registry: assets, networks, and which asset is on which network.

A catalog is checked once and then indexed. The indexes are tables from slugs, pairs of slugs
and addresses to positions in the catalog's lists.
-/

namespace MotherApi.Registry

open MotherApi.Lib.Distinct MotherApi.Lib.Fallible MotherApi.Lib.Tables MotherApi.Strings

/-- All that is asked of `metadata` is whether it is a JSON object. -/
inductive Metadata
  | object | other
  deriving DecidableEq

structure CanonicalAsset where
  slug : String
  symbol : String
  name : String
  assetKind : String
  category : Option String
  canonicalPath : String
  aliases : List String
  metadata : Metadata
  status : String
  sortOrder : ℤ
  deriving DecidableEq

structure CanonicalNetwork where
  slug : String
  name : String
  family : String
  chainId : Option ℤ
  caip2 : Option String
  metadata : Metadata
  status : String
  sortOrder : ℤ
  deriving DecidableEq

structure CanonicalAssetChainMap where
  assetSlug : String
  networkSlug : String
  isNative : Bool
  deploymentAddress : Option String
  deploymentBlock : Option ℤ
  decimals : Option ℤ
  tokenStandard : String
  metadata : Metadata
  status : String
  sortOrder : ℤ
  deriving DecidableEq

structure Catalog where
  version : ℕ
  assets : List CanonicalAsset
  networks : List CanonicalNetwork
  assetChainMaps : List CanonicalAssetChainMap

def CATALOG_VERSION : ℕ := 3

/-! ### The checks -/

inductive MappingIssue
  | requiresDecimals
  | invalidDecimals (decimals : ℤ)
  | nativeDeploymentAddress
  | nativeDeploymentBlock
  | nativeTokenStandard
  | nonNativeTokenStandard
  | requiresDeploymentAddress
  | requiresLowercaseAddress
  | negativeDeploymentBlock
  | erc20RequiresEvm
  | erc20InvalidAddress (address : String)
  | erc20RequiresDeploymentBlock
  | duplicateIdentity

/-- Why a catalog is refused, with what the message names. -/
inductive CatalogIssue
  | unsupportedVersion (version : ℕ)
  | notNormalized (label slug : String)
  | mustNotBeEmpty (label : String)
  | invalidCanonicalPath (slug path : String)
  | nonNormalizedAlias (assetSlug aliasName : String)
  | duplicateAlias (assetSlug aliasName : String)
  | invalidStatus (owner status : String)
  | negativeSortOrder (owner : String) (sortOrder : ℤ)
  | metadataNotObject (owner identity : String)
  | duplicateAssetSlug (slug : String)
  | aliasCollidesWithSlug (assetSlug aliasName : String)
  | sharedAlias (aliasName previous assetSlug : String)
  | invalidCaip2 (networkSlug caip2 : String)
  | evmRequiresChainId (networkSlug : String)
  | evmRequiresCaip2 (networkSlug expected : String)
  | nonEvmChainId (networkSlug : String)
  | duplicateNetworkSlug (slug : String)
  | undeclaredAsset (slug : String)
  | undeclaredNetwork (slug : String)
  | mapping (issue : MappingIssue) (assetSlug networkSlug : String)
  | duplicateActiveNative (networkSlug : String)
  | duplicateActiveAddress (address networkSlug : String)
  | duplicateActiveErc20Address (address networkSlug : String)

abbrev Check := Except CatalogIssue Unit

/-- The check passes, or the catalog is refused with the issue. -/
def ensure (passes : Bool) (issue : CatalogIssue) : Check :=
  if passes then .ok () else .error issue

def validateSlug (label slug : String) : Check :=
  ensure (isAssetSlug slug) (.notNormalized label slug)

def validateNonEmpty (label value : String) : Check :=
  ensure (trim value != "") (.mustNotBeEmpty label)

def validateStatus (owner status : String) : Check :=
  ensure (status ∈ ["active", "inactive", "deprecated", "hidden", "pending", "unsupported",
    "archived"]) (.invalidStatus owner status)

def validateSortOrder (owner : String) (sortOrder : ℤ) : Check :=
  ensure (0 ≤ sortOrder) (.negativeSortOrder owner sortOrder)

def validateMetadata (owner identity : String) (metadata : Metadata) : Check :=
  ensure (metadata = .object) (.metadataNotObject owner identity)

def validateAliases (assetSlug : String) (seen : List String) : List String → Check
  | [] => .ok ()
  | aliasName :: aliases => do
    ensure (aliasName != "" && trim aliasName == aliasName &&
      aliasName == toAsciiLowercase aliasName)
      (.nonNormalizedAlias assetSlug aliasName)
    ensure (aliasName ∉ seen) (.duplicateAlias assetSlug aliasName)
    validateAliases assetSlug (aliasName :: seen) aliases

def validateAsset (asset : CanonicalAsset) : Check := do
  validateSlug "asset slug" asset.slug
  validateNonEmpty "asset symbol" asset.symbol
  validateNonEmpty "asset name" asset.name
  validateNonEmpty "asset kind" asset.assetKind
  asset.category.elim (.ok ()) (validateNonEmpty "asset category")
  ensure (asset.canonicalPath == "/assets/" ++ asset.slug)
    (.invalidCanonicalPath asset.slug asset.canonicalPath)
  validateStatus "asset" asset.status
  validateSortOrder "asset" asset.sortOrder
  validateAliases asset.slug [] asset.aliases
  validateMetadata "asset" asset.slug asset.metadata

/-- A namespace and a reference, neither empty, around one colon. -/
def isCaip2 (caip2 : String) : Bool :=
  match caip2.toList.splitOn ':' with
  | [namespace_, reference] => !namespace_.isEmpty && !reference.isEmpty
  | _ => false

def validateNetwork (network : CanonicalNetwork) : Check := do
  validateSlug "network slug" network.slug
  validateNonEmpty "network name" network.name
  validateNonEmpty "network family" network.family
  validateStatus "network" network.status
  validateSortOrder "network" network.sortOrder
  validateMetadata "network" network.slug network.metadata
  network.caip2.elim (.ok ()) fun caip2 => ensure (isCaip2 caip2) (.invalidCaip2 network.slug caip2)
  if network.family = "evm" then
    match network.chainId.filter fun chainId => 0 < chainId with
    | none => .error (.evmRequiresChainId network.slug)
    | some chainId =>
      let expected := "eip155:" ++ toString chainId
      ensure (network.caip2 == some expected) (.evmRequiresCaip2 network.slug expected)
  else ensure network.chainId.isNone (.nonEvmChainId network.slug)

def validateMapping (mapping : CanonicalAssetChainMap) (network : CanonicalNetwork) : Check := do
  let require (passes : Bool) (issue : MappingIssue) : Check :=
    ensure passes (.mapping issue mapping.assetSlug mapping.networkSlug)
  match mapping.decimals with
  | none => require false .requiresDecimals
  | some decimals => require (0 ≤ decimals && decimals ≤ 255) (.invalidDecimals decimals)
  if mapping.isNative then
    require mapping.deploymentAddress.isNone .nativeDeploymentAddress
    require mapping.deploymentBlock.isNone .nativeDeploymentBlock
    require (mapping.tokenStandard == "native") .nativeTokenStandard
  else
    validateNonEmpty "mapping token_standard" mapping.tokenStandard
    require (mapping.tokenStandard != "native") .nonNativeTokenStandard
    match mapping.deploymentAddress with
    | none => require false .requiresDeploymentAddress
    | some address =>
      validateNonEmpty "mapping deployment_address" address
      require (address == toAsciiLowercase address) .requiresLowercaseAddress
      require (!mapping.deploymentBlock.any fun block => block < 0) .negativeDeploymentBlock
      if mapping.tokenStandard = "erc20" then
        require (network.family == "evm") .erc20RequiresEvm
        require (isEvmAddress address) (.erc20InvalidAddress address)
        require mapping.deploymentBlock.isSome .erc20RequiresDeploymentBlock
      else .ok ()

def isActive (status : String) : Bool := status == "active"

def validateAssets (seen : List String) : List CanonicalAsset → Check
  | [] => .ok ()
  | asset :: assets => do
    validateAsset asset
    ensure (asset.slug ∉ seen) (.duplicateAssetSlug asset.slug)
    validateAssets (asset.slug :: seen) assets

/-- The aliases of one asset against the slugs and against the aliases met so far, each with
its asset. -/
def validateSharedAliases (assetSlugs : List String) (asset : CanonicalAsset)
    (owners : String → Option String) : List String → Except CatalogIssue (String → Option String)
  | [] => .ok owners
  | aliasName :: aliases => do
    ensure (aliasName == asset.slug || aliasName ∉ assetSlugs)
      (.aliasCollidesWithSlug asset.slug aliasName)
    match owners aliasName with
    | none => .ok ()
    | some previous => ensure (previous == asset.slug) (.sharedAlias aliasName previous asset.slug)
    validateSharedAliases assetSlugs asset (Function.update owners aliasName (some asset.slug))
      aliases

def validateNetworks (seen : List String) : List CanonicalNetwork → Check
  | [] => .ok ()
  | network :: networks => do
    validateNetwork network
    ensure (network.slug ∉ seen) (.duplicateNetworkSlug network.slug)
    validateNetworks (network.slug :: seen) networks

/-- What has been seen of the mappings checked so far. -/
structure SeenMappings where
  keys : List (String × String) := []
  activeNativeNetworks : List String := []
  activeNetworkAddresses : List (String × String) := []
  activeErc20Addresses : List (String × String) := []

def validateMappings (assetSlugs : List String) (networks : List CanonicalNetwork)
    (seen : SeenMappings) : List CanonicalAssetChainMap → Check
  | [] => .ok ()
  | mapping :: mappings => do
    validateSlug "mapping asset_slug" mapping.assetSlug
    validateSlug "mapping network_slug" mapping.networkSlug
    validateStatus "mapping" mapping.status
    validateSortOrder "mapping" mapping.sortOrder
    validateMetadata "mapping" mapping.assetSlug mapping.metadata
    ensure (mapping.assetSlug ∈ assetSlugs) (.undeclaredAsset mapping.assetSlug)
    match networks.find? fun network => network.slug = mapping.networkSlug with
    | none => .error (.undeclaredNetwork mapping.networkSlug)
    | some network => validateMapping mapping network
    let key := (mapping.assetSlug, mapping.networkSlug)
    ensure (key ∉ seen.keys) (.mapping .duplicateIdentity mapping.assetSlug mapping.networkSlug)
    let active := isActive mapping.status
    let native := active && mapping.isNative
    ensure (!(native && mapping.networkSlug ∈ seen.activeNativeNetworks))
      (.duplicateActiveNative mapping.networkSlug)
    let addresses := (if active then mapping.deploymentAddress.toList else []).map fun address =>
      (mapping.networkSlug, address)
    let erc20 := if mapping.tokenStandard = "erc20" then addresses else []
    addresses.forM fun key => do
      ensure (key ∉ seen.activeNetworkAddresses) (.duplicateActiveAddress key.2 key.1)
      ensure (!(mapping.tokenStandard == "erc20" && key ∈ seen.activeErc20Addresses))
        (.duplicateActiveErc20Address key.2 key.1)
    validateMappings assetSlugs networks
      { keys := key :: seen.keys
        activeNativeNetworks :=
          if native then mapping.networkSlug :: seen.activeNativeNetworks
          else seen.activeNativeNetworks
        activeNetworkAddresses := addresses ++ seen.activeNetworkAddresses
        activeErc20Addresses := erc20 ++ seen.activeErc20Addresses } mappings

def validateCatalog (catalog : Catalog) : Check := do
  ensure (catalog.version == CATALOG_VERSION) (.unsupportedVersion catalog.version)
  validateAssets [] catalog.assets
  let assetSlugs := catalog.assets.map (·.slug)
  let _ ← catalog.assets.foldlM (fun owners asset =>
    validateSharedAliases assetSlugs asset owners asset.aliases) fun _ => none
  validateNetworks [] catalog.networks
  validateMappings assetSlugs catalog.networks {} catalog.assetChainMaps

/-! ### The indexes -/

/-- Positions in the tables are positions of the lists. -/
structure CanonicalRegistry where
  assets : List CanonicalAsset
  networks : List CanonicalNetwork
  mappings : List CanonicalAssetChainMap
  assetIndexBySlug : String → Option (Fin assets.length)
  assetIndexByAlias : String → Option (Fin assets.length)
  networkIndexBySlug : String → Option (Fin networks.length)
  mappingIndexByIdentity : String × String → Option (Fin mappings.length)
  erc20IndexByNetworkAddress : String × String → Option (Fin mappings.length)
  activeAssetIndexes : List (Fin assets.length)
  activeMappingIndexesByAsset : String → List (Fin mappings.length)

/-- Assets are listed by sort order, then symbol without regard to case, then slug. -/
def assetKey (asset : CanonicalAsset) : ℤ ×ₗ String ×ₗ String :=
  toLex (asset.sortOrder, toLex (toAsciiLowercase asset.symbol, asset.slug))

def mappingKey (mapping : CanonicalAssetChainMap) : ℤ ×ₗ String :=
  toLex (mapping.sortOrder, mapping.networkSlug)

/-- `sort_by` is stable, and so is an insertion sort. -/
def fromCatalog (catalog : Catalog) : Except (Halt CatalogIssue) CanonicalRegistry := do
  lift (validateCatalog catalog)
  let assetIndexes := List.finRange catalog.assets.length
  let mappingIndexes := List.finRange catalog.assetChainMaps.length
  let asset (index : Fin catalog.assets.length) := catalog.assets.get index
  let mapping (index : Fin catalog.assetChainMaps.length) := catalog.assetChainMaps.get index
  let assetIndexBySlug := ofPairs (assetIndexes.map fun index => ((asset index).slug, index))
  let networkIndexBySlug := ofPairs ((List.finRange catalog.networks.length).map fun index =>
    ((catalog.networks.get index).slug, index))
  -- a mapping's asset and network are looked up with an index that panics on a missing key
  let flags ← mappingIndexes.mapM fun index => do
    let assetIndex ← expect (assetIndexBySlug (mapping index).assetSlug)
    let networkIndex ← expect (networkIndexBySlug (mapping index).networkSlug)
    return (index, isActive (mapping index).status && isActive (asset assetIndex).status
      && isActive (catalog.networks.get networkIndex).status)
  let active := (flags.filter (·.2)).map (·.1)
  let erc20 ← (active.filter fun index => (mapping index).tokenStandard = "erc20").mapM
    fun index => do
      let address ← expect (mapping index).deploymentAddress
      return (((mapping index).networkSlug, address), index)
  return {
    assets := catalog.assets
    networks := catalog.networks
    mappings := catalog.assetChainMaps
    assetIndexBySlug := assetIndexBySlug
    assetIndexByAlias := ofPairs (assetIndexes.flatMap fun index =>
      (asset index).aliases.map fun aliasName => (aliasName, index))
    networkIndexBySlug := networkIndexBySlug
    mappingIndexByIdentity := ofPairs (mappingIndexes.map fun index =>
      (((mapping index).assetSlug, (mapping index).networkSlug), index))
    erc20IndexByNetworkAddress := ofPairs erc20
    activeAssetIndexes := (assetIndexes.filter fun index => isActive (asset index).status)
      |>.insertionSort fun left right => assetKey (asset left) ≤ assetKey (asset right)
    activeMappingIndexesByAsset := fun slug =>
      (active.filter fun index => (mapping index).assetSlug = slug)
        |>.insertionSort fun left right => mappingKey (mapping left) ≤ mappingKey (mapping right) }

namespace CanonicalRegistry

variable (registry : CanonicalRegistry)

def assetBySlug (slug : String) : Option CanonicalAsset :=
  (registry.assetIndexBySlug (toAsciiLowercase slug)).map registry.assets.get

def networkBySlug (networkSlug : String) : Option CanonicalNetwork :=
  (registry.networkIndexBySlug (toAsciiLowercase networkSlug)).map registry.networks.get

def mapping (assetSlug networkSlug : String) : Option CanonicalAssetChainMap :=
  (registry.mappingIndexByIdentity (toAsciiLowercase assetSlug, toAsciiLowercase networkSlug)).map
    registry.mappings.get

def activeNetworkBySlug (networkSlug : String) : Option CanonicalNetwork :=
  (registry.networkBySlug networkSlug).filter fun network => isActive network.status

def activeAssetSlugsMappedToNetwork (networkSlug : String) : List String :=
  match registry.activeNetworkBySlug networkSlug with
  | none => []
  | some network =>
    (registry.activeAssetIndexes.map registry.assets.get).filter
      (fun asset => (registry.mapping asset.slug network.slug).any fun mapping =>
        isActive mapping.status)
      |>.map (·.slug)

structure CanonicalBalanceTarget where
  requestedAssetSlug : String
  network : Option CanonicalNetwork
  asset : Option CanonicalAsset
  mapping : Option CanonicalAssetChainMap

def balanceTarget (network : Option CanonicalNetwork) (requestedAssetSlug : String) :
    CanonicalBalanceTarget :=
  let asset := (registry.assetBySlug requestedAssetSlug).filter fun asset => isActive asset.status
  let mapping := match network, asset with
    | some network, some asset =>
      (registry.mapping asset.slug network.slug).filter fun mapping => isActive mapping.status
    | _, _ => none
  ⟨requestedAssetSlug, network, asset, mapping⟩

def orderedBalanceTargets (networkSlug : String) (requestedAssetSlugs : List String) :
    List CanonicalBalanceTarget :=
  let network := registry.activeNetworkBySlug networkSlug
  requestedAssetSlugs.map (registry.balanceTarget network)

structure CanonicalErc20Metadata where
  asset : CanonicalAsset
  network : CanonicalNetwork
  mapping : CanonicalAssetChainMap

def erc20Metadata (networkSlug contractAddress : String) : Option CanonicalErc20Metadata := do
  let index ← registry.erc20IndexByNetworkAddress
    (toAsciiLowercase networkSlug, toAsciiLowercase contractAddress)
  let mapping := registry.mappings.get index
  let asset ← registry.assetBySlug mapping.assetSlug
  let network ← registry.networkBySlug mapping.networkSlug
  return ⟨asset, network, mapping⟩

def activeAssets (limit : ℕ) : List CanonicalAsset :=
  (registry.activeAssetIndexes.take limit).map registry.assets.get

structure CanonicalAssetDetail where
  asset : CanonicalAsset
  mappings : List CanonicalAssetChainMap
  deriving DecidableEq

def assetDetail (slug : String) : Option CanonicalAssetDetail := do
  let assetIndex ← registry.assetIndexBySlug (toAsciiLowercase slug)
  let asset := registry.assets.get assetIndex
  if isActive asset.status then
    return ⟨asset, (registry.activeMappingIndexesByAsset asset.slug).map registry.mappings.get⟩
  else none

inductive CanonicalMatchConfidence
  | slug | symbol | name | aliasName
  deriving DecidableEq

def CanonicalMatchConfidence.rank : CanonicalMatchConfidence → ℕ
  | .slug => 0
  | .symbol => 1
  | .name => 2
  | .aliasName => 3

structure CanonicalAssetMatch where
  asset : CanonicalAsset
  confidence : CanonicalMatchConfidence
  deriving DecidableEq

/-- How an asset is found by a query in lower case, if it is. -/
def confidenceOf (normalizedQuery : String) (index : Fin registry.assets.length) :
    Option CanonicalMatchConfidence :=
  let asset := registry.assets.get index
  if eqIgnoreAsciiCase asset.slug normalizedQuery then some .slug
  else if eqIgnoreAsciiCase asset.symbol normalizedQuery then some .symbol
  else if eqIgnoreAsciiCase asset.name normalizedQuery then some .name
  else if registry.assetIndexByAlias normalizedQuery = some index then some .aliasName
  else none

/-- Matches are taken by their rank, then by the order of the assets. -/
def matchKey (found : CanonicalAssetMatch) : ℕ ×ₗ ℤ ×ₗ String ×ₗ String :=
  toLex (found.confidence.rank, assetKey found.asset)

def findConfidentAsset (normalizedQuery : String) : Option CanonicalAssetMatch :=
  let normalizedQuery := toAsciiLowercase normalizedQuery
  let candidates := registry.activeAssetIndexes.filterMap fun index =>
    (registry.confidenceOf normalizedQuery index).map fun confidence =>
      ⟨registry.assets.get index, confidence⟩
  (candidates.insertionSort fun left right => matchKey left ≤ matchKey right).head?

end CanonicalRegistry

/-! ### What a built registry keeps -/

/-- The tables answer with entries of their keys, and the slugs of the assets are distinct
and normalized. -/
structure Indexed (registry : CanonicalRegistry) : Prop where
  asset : ∀ slug index, registry.assetIndexBySlug slug = some index ↔
    (registry.assets.get index).slug = slug
  network : ∀ slug index, registry.networkIndexBySlug slug = some index →
    (registry.networks.get index).slug = slug
  erc20 : ∀ key index, registry.erc20IndexByNetworkAddress key = some index →
    (registry.mappings.get index).networkSlug = key.1 ∧
      (registry.mappings.get index).deploymentAddress = some key.2 ∧
      (registry.mappings.get index).tokenStandard = "erc20"
  normalized : ∀ asset ∈ registry.assets, isAssetSlug asset.slug = true
  networkNormalized : ∀ network ∈ registry.networks, isAssetSlug network.slug = true
  active : ∀ index, index ∈ registry.activeAssetIndexes ↔
    isActive (registry.assets.get index).status = true
  activeNodup : registry.activeAssetIndexes.Nodup

lemma ensure_eq_ok {passes : Bool} {issue : CatalogIssue} :
    ensure passes issue = .ok () ↔ passes = true := by
  cases passes <;> simp [ensure]

lemma check_bind {x y : Check} : (do x; y) = .ok () ↔ x = .ok () ∧ y = .ok () := by
  cases x <;> simp [bind, Except.bind]

lemma validateAsset_slug {asset : CanonicalAsset} (h : validateAsset asset = .ok ()) :
    isAssetSlug asset.slug = true := by
  unfold validateAsset at h
  exact ensure_eq_ok.mp (check_bind.mp h).1

lemma validateNetwork_slug {network : CanonicalNetwork} (h : validateNetwork network = .ok ()) :
    isAssetSlug network.slug = true := by
  unfold validateNetwork at h
  exact ensure_eq_ok.mp (check_bind.mp h).1

lemma validateAssets_ok {seen : List String} {assets : List CanonicalAsset}
    (h : validateAssets seen assets = .ok ()) :
    (∀ asset ∈ assets, validateAsset asset = .ok ()) ∧ Fresh seen (assets.map (·.slug)) := by
  induction assets generalizing seen with
  | nil => simp
  | cons asset assets ih =>
    obtain ⟨hasset, h⟩ := check_bind.mp h
    obtain ⟨hnew, h⟩ := check_bind.mp h
    obtain ⟨hassets, hfresh⟩ := ih h
    refine ⟨List.forall_mem_cons.mpr ⟨hasset, hassets⟩, Fresh.cons ?_ hfresh⟩
    simpa using ensure_eq_ok.mp hnew

lemma validateNetworks_ok {seen : List String} {networks : List CanonicalNetwork}
    (h : validateNetworks seen networks = .ok ()) :
    (∀ network ∈ networks, validateNetwork network = .ok ()) ∧
      Fresh seen (networks.map (·.slug)) := by
  induction networks generalizing seen with
  | nil => simp
  | cons network networks ih =>
    obtain ⟨hnetwork, h⟩ := check_bind.mp h
    obtain ⟨hnew, h⟩ := check_bind.mp h
    obtain ⟨hnetworks, hfresh⟩ := ih h
    refine ⟨List.forall_mem_cons.mpr ⟨hnetwork, hnetworks⟩, Fresh.cons ?_ hfresh⟩
    simpa using ensure_eq_ok.mp hnew

lemma validateCatalog_ok {catalog : Catalog} (h : validateCatalog catalog = .ok ()) :
    (∀ asset ∈ catalog.assets, isAssetSlug asset.slug = true) ∧
      (catalog.assets.map (·.slug)).Nodup ∧
      ∀ network ∈ catalog.networks, isAssetSlug network.slug = true := by
  obtain ⟨-, h⟩ := check_bind.mp h
  obtain ⟨hassets, h⟩ := check_bind.mp h
  obtain ⟨hassets, hnodup, -⟩ := validateAssets_ok hassets
  obtain ⟨-, -, h⟩ := bind_eq_ok.mp h
  obtain ⟨hnetworks, -⟩ := validateNetworks_ok (check_bind.mp h).1
  exact ⟨fun asset hasset => validateAsset_slug (hassets asset hasset), hnodup,
    fun network hnetwork => validateNetwork_slug (hnetworks network hnetwork)⟩

/-- What `from_catalog` builds. -/
theorem fromCatalog_indexed {catalog : Catalog} {registry : CanonicalRegistry}
    (h : fromCatalog catalog = .ok registry) : Indexed registry := by
  unfold fromCatalog at h
  obtain ⟨⟨⟩, hvalid, h⟩ := bind_eq_ok.mp h
  obtain ⟨hslugs, hnodup, hnetworks⟩ := validateCatalog_ok (lift_eq_ok.mp hvalid)
  obtain ⟨flags, -, h⟩ := bind_eq_ok.mp h
  obtain ⟨erc20, herc20, h⟩ := bind_eq_ok.mp h
  simp only [pure, Except.pure, Except.ok.injEq] at h
  subst h
  have hkeys : (((List.finRange catalog.assets.length).map fun index =>
      ((catalog.assets.get index).slug, index)).map Prod.fst).Nodup := by
    rw [List.map_map]
    rw [← List.map_get_finRange catalog.assets, List.map_map] at hnodup
    exact hnodup
  refine ⟨?_, ?_, ?_, hslugs, hnetworks, ?_, ?_⟩
  · intro slug index
    rw [ofPairs_eq_some hkeys]
    simp
  · intro slug index hindex
    have := mem_of_ofPairs hindex
    simpa using this
  · intro key index hindex
    obtain ⟨i, hi, hpair⟩ := mem_of_mapM herc20 (mem_of_ofPairs hindex)
    obtain ⟨address, haddress, hpair⟩ := bind_eq_ok.mp hpair
    simp only [pure, Except.pure, Except.ok.injEq, Prod.mk.injEq] at hpair
    obtain ⟨rfl, rfl⟩ := hpair
    refine ⟨rfl, expect_eq_ok.mp haddress, ?_⟩
    simpa using (List.mem_filter.mp hi).2
  · intro index
    simp [List.mem_insertionSort]
  · rw [List.Perm.nodup_iff (List.perm_insertionSort _ _)]
    exact (List.nodup_finRange _).filter _

/-! ### One registry -/

/-- One native asset on one network. -/
def sampleCatalog : Catalog where
  version := 3
  assets := [{
    slug := "ethereum", symbol := "ETH", name := "Ethereum", assetKind := "native"
    category := none, canonicalPath := "/assets/ethereum", aliases := ["eth"]
    metadata := .object, status := "active", sortOrder := 1 }]
  networks := [{
    slug := "eth-mainnet", name := "Ethereum", family := "evm", chainId := some 1
    caip2 := some "eip155:1", metadata := .object, status := "active", sortOrder := 1 }]
  assetChainMaps := [{
    assetSlug := "ethereum", networkSlug := "eth-mainnet", isNative := true
    deploymentAddress := none, deploymentBlock := none, decimals := some 18
    tokenStandard := "native", metadata := .object, status := "active", sortOrder := 1 }]

lemma sampleCatalog_accepted : (fromCatalog sampleCatalog).toOption.isSome = true := by
  decide +kernel

def sampleRegistry : CanonicalRegistry := value (fromCatalog sampleCatalog) sampleCatalog_accepted

lemma fromCatalog_sampleCatalog : fromCatalog sampleCatalog = .ok sampleRegistry :=
  eq_ok_value _ _

/-- The sample catalog with a token, and with a second network on which there is no token. -/
def severalCatalog : Catalog where
  version := 3
  assets := sampleCatalog.assets ++ [{
    slug := "usd-coin", symbol := "USDC", name := "USD Coin", assetKind := "crypto"
    category := some "stablecoin", canonicalPath := "/assets/usd-coin", aliases := ["usdc"]
    metadata := .object, status := "active", sortOrder := 2 }]
  networks := sampleCatalog.networks ++ [{
    slug := "base-mainnet", name := "Base", family := "evm", chainId := some 8453
    caip2 := some "eip155:8453", metadata := .object, status := "active", sortOrder := 2 }]
  assetChainMaps := sampleCatalog.assetChainMaps ++ [{
      assetSlug := "ethereum", networkSlug := "base-mainnet", isNative := true
      deploymentAddress := none, deploymentBlock := none, decimals := some 18
      tokenStandard := "native", metadata := .object, status := "active", sortOrder := 2 }, {
      assetSlug := "usd-coin", networkSlug := "eth-mainnet", isNative := false
      deploymentAddress := some "0xa0b86991c6218b36c1d19d4a2e9eb0ce3606eb48"
      deploymentBlock := some 6082465, decimals := some 6
      tokenStandard := "erc20", metadata := .object, status := "active", sortOrder := 3 }]

lemma severalCatalog_accepted : (fromCatalog severalCatalog).toOption.isSome = true := by
  decide +kernel

def severalRegistry : CanonicalRegistry :=
  value (fromCatalog severalCatalog) severalCatalog_accepted

lemma fromCatalog_severalCatalog : fromCatalog severalCatalog = .ok severalRegistry :=
  eq_ok_value _ _

end MotherApi.Registry
