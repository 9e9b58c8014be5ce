import MotherApi.TokenSelectors
import MotherApi.TransferSearch

/-!
The tokens of a transfer search, from the request to what is shown.

An empty list of contracts asks Bigwig for every token, so a filter that went missing would widen
the search. None does: every slug is a contract or the request fails. And what is shown about a
token is what the registry says about its contract, whichever way the token came up.
-/

namespace MotherApi.TransferFilters

open MotherApi.Lib.Fallible MotherApi.Lib.Distinct MotherApi.Lib.Tables MotherApi.Strings
open MotherApi.Registry MotherApi.Registry.CanonicalRegistry MotherApi.RegistryValidation
open MotherApi.RegistryAnswers MotherApi.BalanceTargets MotherApi.TokenSelectors
open MotherApi.TransferSearch

section

variable (registry : CanonicalRegistry) (networkSlug : String)

/-- The target that a slug stands for on the network, with its contract, if it is a token. -/
def tokenOf (assetSlug : String) : Option (BalanceTarget × String) :=
  match resolveAsset registry networkSlug assetSlug with
  | .resolved target =>
    match target.kind with
    | .erc20 contractAddress => some (target, contractAddress)
    | .native => none
  | _ => none

/-- The contracts of a request: those of its slugs, then those it names. -/
def contractsOf (assetSlugs contractAddresses : List String) : List String :=
  (((assetSlugs.filterMap (tokenOf registry networkSlug)).map Prod.snd ++ contractAddresses).map
    toAsciiLowercase).eraseDups

/-- What is shown about a contract is what the registry says about it. -/
def DescribedBy (contractAddress : String) (assetSlug symbol : Option String)
    (decimals : Option ℕ) : Prop :=
  match registry.erc20Metadata networkSlug contractAddress with
  | some metadata => assetSlug = some metadata.asset.slug ∧ symbol = some metadata.asset.symbol ∧
      decimals.isSome = true ∧ decimals.map Nat.cast = metadata.mapping.decimals
  | none => assetSlug = none ∧ symbol = none ∧ decimals = none

/-- The registry's entry for a contract, as the search keeps it. -/
def catalogMetadata (contractAddress : String) : Option Erc20TransferTokenCatalogMetadata := do
  let metadata ← registry.erc20Metadata networkSlug contractAddress
  let decimals ← metadata.mapping.decimals.bind toU8
  return ⟨contractAddress, metadata.asset.slug, metadata.asset.symbol, decimals⟩

end

variable {registry : CanonicalRegistry} {networkSlug : String}

lemma tokenOf_eq_some {assetSlug : String} {target : BalanceTarget} {contractAddress : String} :
    tokenOf registry networkSlug assetSlug = some (target, contractAddress) ↔
      resolveAsset registry networkSlug assetSlug = .resolved target ∧
        target.kind = .erc20 contractAddress := by
  unfold tokenOf
  cases hresolved : resolveAsset registry networkSlug assetSlug with
  | resolved found =>
    cases hkind : found.kind <;> grind
  | _ => simp

/-! ### Filters from slugs -/

/-- The filter of a token that a slug stands for. -/
def slugTokenFilter (token : BalanceTarget × String) : ResolvedErc20TransferTokenFilter where
  contractAddress := token.2
  assetSlug := some token.1.assetSlug
  symbol := some token.1.symbol
  decimals := some token.1.decimals
  source := .assetSlug

section

variable {catalog : Catalog} (h : BuiltFrom catalog registry)

include h

lemma resolveAsset_names {assetSlug : String}
    (hnetwork : toAsciiLowercase networkSlug = networkSlug)
    (hslug : toAsciiLowercase assetSlug = assetSlug) {target : BalanceTarget}
    (hresolved : resolveAsset registry networkSlug assetSlug = .resolved target) :
    target.networkSlug = networkSlug ∧ target.assetSlug = assetSlug := by
  obtain ⟨network, asset, mapping, hby⟩ := resolveAsset_iff.mp hresolved
  obtain ⟨htargetNetwork, -, htargetAsset, -⟩ := targetFromMapping_ok hby.isTarget
  obtain ⟨-, hassetSlug⟩ := (assetBySlug_iff h _ _).mp hby.ofAsset.1
  obtain ⟨-, hnetworkSlug, -⟩ := (activeNetworkBySlug_iff h).mp hby.onNetwork
  rw [htargetNetwork, htargetAsset, hassetSlug, hnetworkSlug, hnetwork, hslug]
  exact ⟨rfl, rfl⟩

lemma tokenFilterFromCatalog_iff {assetSlug : String}
    (hnetwork : toAsciiLowercase networkSlug = networkSlug)
    (hslug : toAsciiLowercase assetSlug = assetSlug)
    {tokenFilter : ResolvedErc20TransferTokenFilter} :
    tokenFilterFromCatalog networkSlug assetSlug (resolveAsset registry networkSlug assetSlug) =
        .ok tokenFilter ↔
      (tokenOf registry networkSlug assetSlug).map slugTokenFilter = some tokenFilter := by
  unfold tokenOf
  cases hresolved : resolveAsset registry networkSlug assetSlug with
  | resolved target =>
    obtain ⟨htargetNetwork, htargetAsset⟩ := resolveAsset_names h hnetwork hslug hresolved
    cases hkind : target.kind with
    | native => simp [tokenFilterFromCatalog, htargetNetwork, htargetAsset, hkind]
    | erc20 contractAddress =>
      simp [tokenFilterFromCatalog, htargetNetwork, htargetAsset, hkind, slugTokenFilter]
  | _ => simp [tokenFilterFromCatalog]

lemma resolvedTokenFiltersFromCatalog_iff {assetSlugs : List String}
    (hnetwork : toAsciiLowercase networkSlug = networkSlug)
    (hslugs : ∀ slug ∈ assetSlugs, toAsciiLowercase slug = slug)
    {tokenFilters : List ResolvedErc20TransferTokenFilter} :
    resolvedTokenFiltersFromCatalog networkSlug assetSlugs
        (resolveNetwork registry networkSlug assetSlugs) = .ok tokenFilters ↔
      (∀ slug ∈ assetSlugs, (tokenOf registry networkSlug slug).isSome = true) ∧
        tokenFilters = (assetSlugs.filterMap (tokenOf registry networkSlug)).map
          slugTokenFilter := by
  have hfilters : ∀ slug ∈ assetSlugs, ∀ tokenFilter,
      tokenFilterFromCatalog networkSlug slug (resolveAsset registry networkSlug slug) =
          .ok tokenFilter ↔
        (tokenOf registry networkSlug slug).map slugTokenFilter = some tokenFilter :=
    fun slug hslug _ => tokenFilterFromCatalog_iff h hnetwork (hslugs slug hslug)
  rw [resolvedTokenFiltersFromCatalog, resolveNetwork_eq, List.length_map, if_neg (by simp),
    ← List.map_prod_left_eq_zip, List.mapM_map, List.map_filterMap]
  simpa [Function.comp_def] using mapM_eq_ok_filterMap hfilters

end

/-! ### Filters without duplicates -/

lemma foldl_pushUniqueTokenFilter (tokenFilters pushed : List ResolvedErc20TransferTokenFilter) :
    pushed.foldl pushUniqueTokenFilter tokenFilters =
      (pushed.map lowercaseTokenFilter).foldl (pushUnique (·.contractAddress)) tokenFilters := by
  rw [List.foldl_map]
  rfl

/-- The filters of a request before duplicates are removed. -/
def requestedTokens (registry : CanonicalRegistry) (networkSlug : String)
    (assetSlugs contractAddresses : List String) : List ResolvedErc20TransferTokenFilter :=
  (assetSlugs.filterMap (tokenOf registry networkSlug)).map slugTokenFilter ++
    contractAddresses.map explicitTokenFilter

lemma resolveTokenFilters_iff {catalog : Catalog} (h : BuiltFrom catalog registry)
    {tokens : Erc20TransferSearchTokenFilters}
    (hnetwork : toAsciiLowercase networkSlug = networkSlug)
    (hslugs : ∀ slug ∈ tokens.assetSlugs, toAsciiLowercase slug = slug)
    {tokenFilters : List ResolvedErc20TransferTokenFilter} :
    resolveTokenFilters registry networkSlug tokens = .ok tokenFilters ↔
      (∀ slug ∈ tokens.assetSlugs, (tokenOf registry networkSlug slug).isSome = true) ∧
        tokenFilters = (requestedTokens registry networkSlug tokens.assetSlugs
          tokens.contractAddresses).foldl pushUniqueTokenFilter [] := by
  -- the request without slugs is a case of the other one
  have hall : resolvedAssetFilters registry networkSlug tokens.assetSlugs =
      resolvedTokenFiltersFromCatalog networkSlug tokens.assetSlugs
        (resolveNetwork registry networkSlug tokens.assetSlugs) := by
    unfold resolvedAssetFilters
    split
    · rename_i hempty
      rw [List.isEmpty_iff.mp hempty]
      rfl
    · rfl
  unfold resolveTokenFilters
  rw [hall, bind_eq_ok]
  simp only [resolvedTokenFiltersFromCatalog_iff h hnetwork hslugs, pure, Except.pure,
    Except.ok.injEq, requestedTokens, List.foldl_append]
  constructor
  · rintro ⟨_, ⟨hresolve, rfl⟩, rfl⟩
    exact ⟨hresolve, rfl⟩
  · rintro ⟨hresolve, rfl⟩
    exact ⟨_, ⟨hresolve, rfl⟩, rfl⟩

lemma map_contractAddress_foldl (registry : CanonicalRegistry) (networkSlug : String)
    (assetSlugs contractAddresses : List String) :
    ((requestedTokens registry networkSlug assetSlugs contractAddresses).foldl
        pushUniqueTokenFilter []).map (·.contractAddress) =
      contractsOf registry networkSlug assetSlugs contractAddresses := by
  rw [foldl_pushUniqueTokenFilter, map_foldl_pushUnique_nil, contractsOf, requestedTokens]
  simp [Function.comp_def, lowercaseTokenFilter, slugTokenFilter, explicitTokenFilter]

/-- No filter is left only if none was asked for. -/
lemma contractsOf_eq_nil {assetSlugs contractAddresses : List String}
    (hresolve : ∀ slug ∈ assetSlugs, (tokenOf registry networkSlug slug).isSome = true) :
    contractsOf registry networkSlug assetSlugs contractAddresses = [] ↔
      assetSlugs = [] ∧ contractAddresses = [] := by
  have hnil : ∀ l : List String, l.eraseDups = [] ↔ l = [] := by
    intro l
    cases l <;> simp [List.eraseDups_cons]
  rw [contractsOf, hnil, List.map_eq_nil_iff, List.append_eq_nil_iff, List.map_eq_nil_iff,
    List.filterMap_eq_nil_iff]
  refine and_congr_left fun _ => ⟨fun hnone => ?_, fun hempty => by simp [hempty]⟩
  refine List.eq_nil_iff_forall_not_mem.mpr fun slug hslug => ?_
  have hsome := hresolve slug hslug
  rw [hnone slug hslug] at hsome
  cases hsome

/-! ### Metadata -/

lemma targetFromMapping_shown {networkSlug : String} {chainId : Option ℤ} {asset : CanonicalAsset}
    {mapping : CanonicalAssetChainMap} {target : BalanceTarget}
    (htarget : targetFromMapping networkSlug chainId asset mapping = some target) :
    target.symbol = asset.symbol ∧ mapping.decimals.bind toU8 = some target.decimals := by
  unfold targetFromMapping at htarget
  obtain ⟨_, -, htarget⟩ := Option.bind_eq_some_iff.mp htarget
  obtain ⟨decimals, hdecimals, htarget⟩ := Option.bind_eq_some_iff.mp htarget
  obtain ⟨kind, -, htarget⟩ := Option.bind_eq_some_iff.mp htarget
  cases htarget
  exact ⟨rfl, hdecimals⟩

/-- What a table has is what the registry says. -/
def Sound (registry : CanonicalRegistry) (networkSlug : String) (table : MetadataTable) : Prop :=
  ∀ address metadata, table address = some metadata →
    catalogMetadata registry networkSlug address = some metadata

lemma catalogMetadata_contractAddress {address : String}
    {metadata : Erc20TransferTokenCatalogMetadata}
    (hmetadata : catalogMetadata registry networkSlug address = some metadata) :
    metadata.contractAddress = address := by
  unfold catalogMetadata at hmetadata
  simp only [Option.bind_eq_bind, Option.bind_eq_some_iff, Option.pure_def,
    Option.some.injEq] at hmetadata
  obtain ⟨-, -, -, -, rfl⟩ := hmetadata
  rfl

section

variable {catalog : Catalog} (h : BuiltFrom catalog registry)

include h

lemma exists_checked {mapping : CanonicalAssetChainMap}
    (hmapping : mapping ∈ catalog.assetChainMaps) :
    ∃ network, CheckedMapping mapping network := by
  obtain ⟨network, -, -, hcheck⟩ := (h.valid.mappings _ hmapping).network
  exact ⟨network, validateMapping_checked hcheck⟩

lemma exists_decimals {address : String} {metadata : CanonicalErc20Metadata}
    (hmetadata : registry.erc20Metadata networkSlug address = some metadata) :
    ∃ decimals : ℕ, metadata.mapping.decimals = some (decimals : ℤ) ∧
      metadata.mapping.decimals.bind toU8 = some decimals := by
  have hmapping := ((erc20Metadata_iff h _ _ _).mp hmetadata).mapping.1
  obtain ⟨network, hchecked⟩ := exists_checked h hmapping
  obtain ⟨decimals, hdecimals, hnonneg, hle⟩ := hchecked.decimals
  refine ⟨decimals.toNat, ?_, ?_⟩
  · rw [hdecimals, Int.toNat_of_nonneg hnonneg]
  · rw [hdecimals, Option.bind_some, toU8, if_pos ⟨hnonneg, by omega⟩]

/-- The target of a slug is described as the registry describes its contract. -/
lemma catalogMetadata_of_tokenOf {assetSlug : String} {target : BalanceTarget}
    {contractAddress : String}
    (htoken : tokenOf registry networkSlug assetSlug = some (target, contractAddress)) :
    catalogMetadata registry networkSlug (toAsciiLowercase contractAddress) =
      some ⟨toAsciiLowercase contractAddress, target.assetSlug, target.symbol,
        target.decimals⟩ := by
  obtain ⟨hresolved, hkind⟩ := tokenOf_eq_some.mp htoken
  obtain ⟨network, asset, mapping, hby⟩ := resolveAsset_iff.mp hresolved
  obtain ⟨hmem, hmappingAsset, hmappingNetwork⟩ := hby.mem h
  obtain ⟨hasset, hassetSlug⟩ := (assetBySlug_iff h _ _).mp hby.ofAsset.1
  obtain ⟨hnetwork, hnetworkSlug, hactive⟩ := (activeNetworkBySlug_iff h).mp hby.onNetwork
  obtain ⟨-, -, htargetAsset, -⟩ := targetFromMapping_ok hby.isTarget
  obtain ⟨hsymbol, hdecimals⟩ := targetFromMapping_shown hby.isTarget
  have hof := targetFromMapping_kind hby.isTarget
  rw [hkind] at hof
  obtain ⟨hstandard, haddress⟩ := kindFromMapping_erc20 hof
  have hlower : toAsciiLowercase contractAddress = contractAddress := by
    obtain ⟨_, hchecked⟩ := exists_checked h hmem
    have hnative : mapping.isNative = false := by
      by_contra hnative
      have hstandard' := hchecked.native (by simpa using hnative)
      rw [hstandard] at hstandard'
      exact absurd hstandard' (by decide)
    obtain ⟨-, address, hdeployed, hlower, -⟩ := hchecked.deployed hnative
    rw [haddress, Option.some.injEq] at hdeployed
    rw [hdeployed, hlower]
  have hfound : registry.erc20Metadata networkSlug (toAsciiLowercase contractAddress) =
      some ⟨asset, network, mapping⟩ :=
    (erc20Metadata_iff h _ _ _).mpr ⟨⟨hmem, hby.byMapping.2⟩,
      ⟨hasset, hby.ofAsset.2, hassetSlug.trans hmappingAsset.symm⟩,
      ⟨hnetwork, hactive, hnetworkSlug.trans hmappingNetwork.symm⟩, hstandard, hmappingNetwork,
      by rw [hlower, hlower, haddress]⟩
  simp [catalogMetadata, hfound, hdecimals, hsymbol, htargetAsset]

/-- One lookup leaves a sound table that has all it had and the address looked up. -/
lemma insertCatalogMetadata_step {table : MetadataTable}
    (hsound : Sound registry networkSlug table) (address : String) :
    ∃ table', insertCatalogMetadata registry networkSlug table address = .ok table' ∧
      Sound registry networkSlug table' ∧
      (∀ other metadata, table other = some metadata → table' other = some metadata) ∧
      table' address = catalogMetadata registry networkSlug address := by
  unfold insertCatalogMetadata
  cases hmetadata : registry.erc20Metadata networkSlug address with
  | none =>
    have hnone : catalogMetadata registry networkSlug address = none := by
      simp [catalogMetadata, hmetadata]
    refine ⟨table, rfl, hsound, fun _ _ hsome => hsome, ?_⟩
    rw [hnone]
    cases hentry : table address with
    | none => rfl
    | some metadata =>
      rw [hsound address metadata hentry] at hnone
      cases hnone
  | some metadata =>
    obtain ⟨decimals, -, hdecimals⟩ := exists_decimals h hmetadata
    have hsome : catalogMetadata registry networkSlug address =
        some ⟨address, metadata.asset.slug, metadata.asset.symbol, decimals⟩ := by
      simp [catalogMetadata, hmetadata, hdecimals]
    simp only [hdecimals]
    cases hentry : table address with
    | some entry =>
      refine ⟨table, rfl, hsound, fun _ _ hsome => hsome, ?_⟩
      rw [hsound address entry hentry, hentry]
    | none =>
      refine ⟨_, rfl, ?_, ?_, by rw [hsome, Function.update_self]⟩
      · intro other found hfound
        rw [Function.update_apply] at hfound
        split at hfound
        · rename_i hother
          rw [hother, hsome, hfound]
        · exact hsound other found hfound
      · intro other found hfound
        have hne : other ≠ address := by
          rintro rfl
          rw [hentry] at hfound
          cases hfound
        rw [Function.update_of_ne hne, hfound]

lemma foldlM_insertCatalogMetadata (addresses : List String) {table : MetadataTable}
    (hsound : Sound registry networkSlug table) :
    ∃ table', addresses.foldlM (insertCatalogMetadata registry networkSlug) table = .ok table' ∧
      Sound registry networkSlug table' ∧
      (∀ other metadata, table other = some metadata → table' other = some metadata) ∧
      ∀ address ∈ addresses, table' address = catalogMetadata registry networkSlug address := by
  induction addresses generalizing table with
  | nil => exact ⟨table, rfl, hsound, fun _ _ hsome => hsome, by simp⟩
  | cons address addresses ih =>
    obtain ⟨next, hnext, hsound, hkeeps, hentry⟩ := insertCatalogMetadata_step h hsound address
    obtain ⟨last, hlast, hsound', hkeeps', hentries⟩ := ih hsound
    refine ⟨last, ?_, hsound', fun other metadata hsome => hkeeps' _ _ (hkeeps _ _ hsome), ?_⟩
    · rw [List.foldlM_cons, hnext]
      exact hlast
    · refine List.forall_mem_cons.mpr ⟨?_, hentries⟩
      cases hcatalog : catalogMetadata registry networkSlug address with
      | some metadata => exact hkeeps' _ _ (hentry.trans hcatalog)
      | none =>
        -- an entry that a later lookup made would be sound
        cases hfound : last address with
        | none => rfl
        | some metadata =>
          rw [hsound' address metadata hfound] at hcatalog
          cases hcatalog

end

/-! ### What is shown -/

/-- A filter has nothing yet or what the registry says about its contract. -/
structure Named (registry : CanonicalRegistry) (networkSlug : String)
    (tokenFilter : ResolvedErc20TransferTokenFilter) : Prop where
  lowercase : toAsciiLowercase tokenFilter.contractAddress = tokenFilter.contractAddress
  fields : tokenFilter.assetSlug = none ∧ tokenFilter.symbol = none ∧ tokenFilter.decimals = none ∨
    ∃ metadata,
      catalogMetadata registry networkSlug tokenFilter.contractAddress = some metadata ∧
      tokenFilter.assetSlug = some metadata.assetSlug ∧
      tokenFilter.symbol = some metadata.symbol ∧ tokenFilter.decimals = some metadata.decimals

lemma sound_filterMetadataTable {tokenFilters : List ResolvedErc20TransferTokenFilter}
    (hnamed : ∀ tokenFilter ∈ tokenFilters, Named registry networkSlug tokenFilter) :
    Sound registry networkSlug (filterMetadataTable tokenFilters) := by
  intro address metadata hentry
  obtain ⟨found, hfound, hpair⟩ := List.mem_map.mp (mem_of_ofPairs hentry)
  cases hpair
  obtain ⟨tokenFilter, hmem, hmetadata⟩ := List.mem_filterMap.mp hfound
  obtain ⟨hlower, hnone | ⟨entry, hsome, hslug, hsymbol, hdecimals⟩⟩ := hnamed _ hmem
  · simp [metadataFromResolvedFilter, hnone.1] at hmetadata
  · simp only [metadataFromResolvedFilter, hslug, hsymbol, hdecimals, hlower, Option.bind_eq_bind,
      Option.bind_some, Option.pure_def, Option.some.injEq] at hmetadata
    have haddress := catalogMetadata_contractAddress hsome
    obtain rfl : entry = metadata := by
      rw [← hmetadata, ← haddress]
    rw [haddress, hsome]

lemma mem_collectMetadataLookupAddresses {plan : Erc20TransferSearchPlan}
    {extraction : Erc20TransferExtractionResult} {address : String} :
    address ∈ collectMetadataLookupAddresses plan extraction ↔
      (∃ tokenFilter ∈ plan.resolvedTokenFilters,
        toAsciiLowercase tokenFilter.contractAddress = address) ∨
      ∃ row ∈ extraction.rows, toAsciiLowercase row.token = address := by
  have hpush : ∀ addresses pushed : List String, pushed.foldl pushUniqueAddress addresses =
      (pushed.map toAsciiLowercase).foldl (pushUnique id) addresses := by
    intro addresses pushed
    rw [List.foldl_map]
    rfl
  have hlookup : collectMetadataLookupAddresses plan extraction =
      ((plan.resolvedTokenFilters.map (·.contractAddress) ++ extraction.rows.map (·.token)).map
        toAsciiLowercase).eraseDups := by
    rw [collectMetadataLookupAddresses, ← List.foldl_append, hpush, ← List.map_id (List.foldl ..)]
    rw [map_foldl_pushUnique_nil, List.map_id]
  rw [hlookup, List.mem_eraseDups]
  simp

/-- The table that the shown rows read has the registry's entry of every address looked up. -/
lemma ofPairs_lookups {table : MetadataTable} (hsound : Sound registry networkSlug table)
    {addresses : List String} {address : String} (hmem : address ∈ addresses) :
    ofPairs ((addresses.filterMap table).map fun metadata => (metadata.contractAddress, metadata))
      address = table address := by
  have hkey : ∀ other metadata, table other = some metadata → metadata.contractAddress = other :=
    fun other metadata hentry => catalogMetadata_contractAddress (hsound other metadata hentry)
  have hfrom : ∀ metadata, ofPairs ((addresses.filterMap table).map fun metadata =>
      (metadata.contractAddress, metadata)) address = some metadata →
      table address = some metadata := by
    intro metadata hfound
    obtain ⟨found, hlisted, hpair⟩ := List.mem_map.mp (mem_of_ofPairs hfound)
    cases hpair
    obtain ⟨other, -, hother⟩ := List.mem_filterMap.mp hlisted
    rw [hkey other metadata hother, hother]
  cases hentry : table address with
  | some metadata =>
    have hin : address ∈ ((addresses.filterMap table).map fun metadata =>
        (metadata.contractAddress, metadata)).map Prod.fst := by
      simp only [List.map_map, List.mem_map, Function.comp_apply]
      exact ⟨metadata, List.mem_filterMap.mpr ⟨address, hmem, hentry⟩, hkey _ _ hentry⟩
    obtain ⟨found, hfound⟩ := exists_ofPairs hin
    rw [hfound, ← hfrom found hfound, hentry]
  | none =>
    cases hfound : ofPairs ((addresses.filterMap table).map fun metadata =>
        (metadata.contractAddress, metadata)) address with
    | none => rfl
    | some found =>
      rw [hfrom found hfound] at hentry
      cases hentry

lemma erc20Metadata_lowercase (networkSlug address : String) :
    registry.erc20Metadata networkSlug (toAsciiLowercase address) =
      registry.erc20Metadata networkSlug address := by
  unfold erc20Metadata
  rw [toAsciiLowercase_idem]

section

variable {catalog : Catalog} (h : BuiltFrom catalog registry)

include h

/-- The registry's entry, cut into what is shown of it. -/
lemma describedBy_catalogMetadata (networkSlug address : String) :
    DescribedBy registry networkSlug address
      ((catalogMetadata registry networkSlug (toAsciiLowercase address)).map (·.assetSlug))
      ((catalogMetadata registry networkSlug (toAsciiLowercase address)).map (·.symbol))
      ((catalogMetadata registry networkSlug (toAsciiLowercase address)).map (·.decimals)) := by
  unfold DescribedBy
  cases hmetadata : registry.erc20Metadata networkSlug address with
  | none =>
    rw [← erc20Metadata_lowercase] at hmetadata
    simp [catalogMetadata, hmetadata]
  | some metadata =>
    rw [← erc20Metadata_lowercase] at hmetadata
    obtain ⟨decimals, hdecimals, hfits⟩ := exists_decimals h hmetadata
    have hentry : catalogMetadata registry networkSlug (toAsciiLowercase address) =
        some ⟨toAsciiLowercase address, metadata.asset.slug, metadata.asset.symbol, decimals⟩ := by
      simp [catalogMetadata, hmetadata, hfits]
    simp [hentry, hdecimals]

lemma named_of_mem {assetSlugs contractAddresses : List String}
    {tokenFilter : ResolvedErc20TransferTokenFilter}
    (hmem : tokenFilter ∈ (requestedTokens registry networkSlug assetSlugs
      contractAddresses).foldl pushUniqueTokenFilter []) :
    Named registry networkSlug tokenFilter := by
  rw [foldl_pushUniqueTokenFilter] at hmem
  rcases mem_foldl_pushUnique hmem with hmem | hmem
  · cases hmem
  obtain ⟨requested, hrequested, rfl⟩ := List.mem_map.mp hmem
  refine ⟨toAsciiLowercase_idem _, ?_⟩
  rcases List.mem_append.mp hrequested with hslug | hexplicit
  · obtain ⟨⟨target, contractAddress⟩, htoken, rfl⟩ := List.mem_map.mp hslug
    obtain ⟨assetSlug, -, htoken⟩ := List.mem_filterMap.mp htoken
    exact Or.inr ⟨_, catalogMetadata_of_tokenOf h htoken, rfl, rfl, rfl⟩
  · obtain ⟨contractAddress, -, rfl⟩ := List.mem_map.mp hexplicit
    exact Or.inl ⟨rfl, rfl, rfl⟩

lemma enrichTokenFilter_describedBy {table : MetadataTable}
    {tokenFilter : ResolvedErc20TransferTokenFilter}
    (hnamed : Named registry networkSlug tokenFilter)
    (htable : table (toAsciiLowercase tokenFilter.contractAddress) =
      catalogMetadata registry networkSlug (toAsciiLowercase tokenFilter.contractAddress)) :
    DescribedBy registry networkSlug tokenFilter.contractAddress
      (enrichTokenFilter table tokenFilter).assetSlug
      (enrichTokenFilter table tokenFilter).symbol
      (enrichTokenFilter table tokenFilter).decimals := by
  have hdescribed := describedBy_catalogMetadata h networkSlug tokenFilter.contractAddress
  rw [← htable] at hdescribed
  unfold enrichTokenFilter
  cases hentry : table (toAsciiLowercase tokenFilter.contractAddress) with
  | some metadata => simpa [hentry] using hdescribed
  | none =>
    -- without an entry the filter has nothing to show, and keeps nothing
    rw [hentry] at hdescribed
    rcases hnamed.fields with ⟨hslug, hsymbol, hdecimals⟩ | ⟨metadata, hsome, -⟩
    · simpa [hslug, hsymbol, hdecimals] using hdescribed
    · rw [htable, hnamed.lowercase, hsome] at hentry
      cases hentry

end

/-- The result is the extraction under the contracts of the plan, and every token in it is shown
as the registry describes it. -/
structure Shown (registry : CanonicalRegistry) (plan : Erc20TransferSearchPlan)
    (extraction : Erc20TransferExtractionResult) (result : Erc20TransferSearchResult) : Prop where
  extracted : result.extraction = extraction
  contracts : result.plan.resolvedTokenFilters.map (·.contractAddress) =
    plan.resolvedTokenFilters.map (·.contractAddress)
  filters : ∀ tokenFilter ∈ result.plan.resolvedTokenFilters,
    DescribedBy registry plan.extractionRequest.networkSlug tokenFilter.contractAddress
      tokenFilter.assetSlug tokenFilter.symbol tokenFilter.decimals
  rows : List.Forall₂
    (fun row shown => shown.token.contractAddress = toAsciiLowercase row.token ∧
      DescribedBy registry plan.extractionRequest.networkSlug row.token shown.token.assetSlug
        shown.token.symbol shown.token.decimals)
    extraction.rows (erc20TransferSearchResponseFromResult result).transfers

lemma executeSearchPlan_eq {plan : Erc20TransferSearchPlan} {extractor : Erc20TransferExtractor}
    {extraction : Erc20TransferExtractionResult}
    (hextractor : extractor plan.extractionRequest = .ok extraction) {table : MetadataTable}
    (htable : (collectMetadataLookupAddresses plan extraction).foldlM
      (insertCatalogMetadata registry plan.extractionRequest.networkSlug)
      (filterMetadataTable plan.resolvedTokenFilters) = .ok table) :
    executeSearchPlan registry extractor plan = .ok {
      plan := { plan with
        resolvedTokenFilters := plan.resolvedTokenFilters.map (enrichTokenFilter table) }
      extraction := extraction
      tokenMetadata := (collectMetadataLookupAddresses plan extraction).filterMap table } := by
  unfold executeSearchPlan enrichTokenMetadata
  rw [hextractor]
  simp only [Except.mapError, htable, bind, Except.bind, pure, Except.pure]

lemma executeSearchPlan_shown {catalog : Catalog} (h : BuiltFrom catalog registry)
    {plan : Erc20TransferSearchPlan}
    (hnamed : ∀ tokenFilter ∈ plan.resolvedTokenFilters,
      Named registry plan.extractionRequest.networkSlug tokenFilter)
    {extractor : Erc20TransferExtractor} {extraction : Erc20TransferExtractionResult}
    (hextractor : extractor plan.extractionRequest = .ok extraction) :
    ∃ result, executeSearchPlan registry extractor plan = .ok result ∧
      Shown registry plan extraction result := by
  obtain ⟨table, htable, hsound, -, hentries⟩ := foldlM_insertCatalogMetadata h
    (collectMetadataLookupAddresses plan extraction) (sound_filterMetadataTable hnamed)
  refine ⟨_, executeSearchPlan_eq hextractor htable, rfl, ?_, ?_, ?_⟩
  · rw [List.map_map]
    refine List.map_congr_left fun tokenFilter _ => ?_
    simp only [Function.comp_apply, enrichTokenFilter]
    split <;> rfl
  · intro tokenFilter hmem
    obtain ⟨before, hbefore, rfl⟩ := List.mem_map.mp hmem
    have haddress : (enrichTokenFilter table before).contractAddress = before.contractAddress := by
      unfold enrichTokenFilter
      split <;> rfl
    rw [haddress]
    refine enrichTokenFilter_describedBy h (hnamed before hbefore) (hentries _ ?_)
    exact mem_collectMetadataLookupAddresses.mpr (Or.inl ⟨before, hbefore, rfl⟩)
  · refine List.forall₂_map_right_iff.mpr (List.forall₂_same.mpr fun row hrow => ⟨rfl, ?_⟩)
    have hlookup : toAsciiLowercase row.token ∈ collectMetadataLookupAddresses plan extraction :=
      mem_collectMetadataLookupAddresses.mpr (Or.inr ⟨row, hrow, rfl⟩)
    simp only [erc20TransferRowToDto, ofPairs_lookups hsound hlookup, hentries _ hlookup]
    exact describedBy_catalogMetadata h _ row.token

lemma buildSearchPlan_iff {catalog : Catalog} (h : BuiltFrom catalog registry)
    {input : Erc20TransferSearchInput}
    (hnetwork : toAsciiLowercase input.networkSlug = input.networkSlug)
    (hslugs : ∀ slug ∈ input.assetSlugs, toAsciiLowercase slug = slug) {maxTokenFilters : ℕ}
    {plan : Erc20TransferSearchPlan} :
    buildSearchPlan registry input maxTokenFilters = .ok plan ↔
      (∀ slug ∈ input.assetSlugs, (tokenOf registry input.networkSlug slug).isSome = true) ∧
      (contractsOf registry input.networkSlug input.assetSlugs input.contractAddresses).length ≤
        maxTokenFilters ∧
      plan = {
        extractionRequest := {
          networkSlug := input.networkSlug
          address := toAsciiLowercase input.address
          direction := input.direction
          window := input.window
          contractAddresses :=
            contractsOf registry input.networkSlug input.assetSlugs input.contractAddresses }
        requestedTokenFilters := ⟨input.assetSlugs, input.contractAddresses⟩
        resolvedTokenFilters := (requestedTokens registry input.networkSlug input.assetSlugs
          input.contractAddresses).foldl pushUniqueTokenFilter [] } := by
  have hlength (tokenFilters : List ResolvedErc20TransferTokenFilter) :
      enforceTokenFilterLimit tokenFilters maxTokenFilters = .ok () ↔
        (tokenFilters.map (·.contractAddress)).length ≤ maxTokenFilters := by
    rw [enforceTokenFilterLimit, List.length_map]
    split <;> simp <;> omega
  rw [← map_contractAddress_foldl]
  unfold buildSearchPlan
  rw [bind_eq_ok]
  constructor
  · rintro ⟨tokenFilters, hfilters, hplan⟩
    obtain ⟨hresolve, rfl⟩ := (resolveTokenFilters_iff h hnetwork hslugs).mp hfilters
    obtain ⟨⟨⟩, hlimit, hplan⟩ := bind_eq_ok.mp hplan
    cases hplan
    exact ⟨hresolve, (hlength _).mp hlimit, rfl⟩
  · rintro ⟨hresolve, hlimit, rfl⟩
    exact ⟨_, (resolveTokenFilters_iff h hnetwork hslugs).mpr ⟨hresolve, rfl⟩,
      bind_eq_ok.mpr ⟨(), (hlength _).mpr hlimit, rfl⟩⟩

/-- **Token filters are complete**: on a registry that was built, a request with slugs in lower
case has a plan exactly if every slug is a contract on the network and there are not too many
contracts; the plan asks for all of them, and for every token only if none was named. What any
extraction then shows of a filter or a row is what the registry says about its contract. -/
theorem buildSearchPlan_complete {catalog : Catalog} {registry : CanonicalRegistry}
    (hregistry : fromCatalog catalog = .ok registry) (input : Erc20TransferSearchInput)
    (hnetwork : toAsciiLowercase input.networkSlug = input.networkSlug)
    (hslugs : ∀ slug ∈ input.assetSlugs, toAsciiLowercase slug = slug) (maxTokenFilters : ℕ) :
    ((∃ plan, buildSearchPlan registry input maxTokenFilters = .ok plan) ↔
      (∀ slug ∈ input.assetSlugs, ∃ target contractAddress,
        resolveNetwork registry input.networkSlug [slug] = [.resolved target] ∧
          target.kind = .erc20 contractAddress) ∧
      (contractsOf registry input.networkSlug input.assetSlugs input.contractAddresses).length ≤
        maxTokenFilters) ∧
    ∀ plan, buildSearchPlan registry input maxTokenFilters = .ok plan →
      plan.extractionRequest.contractAddresses =
        contractsOf registry input.networkSlug input.assetSlugs input.contractAddresses ∧
      (plan.extractionRequest.contractAddresses = [] ↔
        input.assetSlugs = [] ∧ input.contractAddresses = []) ∧
      plan.resolvedTokenFilters.map (·.contractAddress) =
        plan.extractionRequest.contractAddresses ∧
      plan.extractionRequest.networkSlug = input.networkSlug ∧
      ∀ extractor extraction, extractor plan.extractionRequest = .ok extraction →
        ∃ result, executeSearchPlan registry extractor plan = .ok result ∧
          Shown registry plan extraction result := by
  have h := fromCatalog_builtFrom hregistry
  have htoken (slug : String) : (tokenOf registry input.networkSlug slug).isSome = true ↔
      ∃ target contractAddress,
        resolveNetwork registry input.networkSlug [slug] = [.resolved target] ∧
          target.kind = .erc20 contractAddress := by
    simp only [resolveNetwork_eq, List.map_cons, List.map_nil, List.cons.injEq, and_true,
      Option.isSome_iff_exists, Prod.exists, tokenOf_eq_some]
  simp only [← htoken]
  constructor
  · constructor
    · rintro ⟨plan, hplan⟩
      obtain ⟨hresolve, hlimit, -⟩ := (buildSearchPlan_iff h hnetwork hslugs).mp hplan
      exact ⟨hresolve, hlimit⟩
    · rintro ⟨hresolve, hlimit⟩
      exact ⟨_, (buildSearchPlan_iff h hnetwork hslugs).mpr ⟨hresolve, hlimit, rfl⟩⟩
  · intro plan hplan
    obtain ⟨hresolve, -, rfl⟩ := (buildSearchPlan_iff h hnetwork hslugs).mp hplan
    refine ⟨rfl, contractsOf_eq_nil hresolve, map_contractAddress_foldl .., rfl, ?_⟩
    intro extractor extraction hextractor
    exact executeSearchPlan_shown h (fun _ hmem => named_of_mem h hmem) hextractor

/-- A token by its slug and by its contract, in upper case. -/
def tokenInput : Erc20TransferSearchInput where
  networkSlug := "eth-mainnet"
  address := "0xABC0000000000000000000000000000000000000"
  direction := .any
  window := .lookback ⟨600, by decide⟩
  assetSlugs := ["usd-coin"]
  contractAddresses := ["0xA0B86991C6218B36C1D19D4A2E9EB0CE3606EB48"]

theorem buildSearchPlan_complete_token :
    ∃ plan, buildSearchPlan tokenRegistry tokenInput 1 = .ok plan ∧
      plan.extractionRequest.contractAddresses =
        ["0xa0b86991c6218b36c1d19d4a2e9eb0ce3606eb48"] := by
  have hregistry : fromCatalog tokenCatalog = .ok tokenRegistry := eq_ok_value _ _
  have hcontracts : contractsOf tokenRegistry tokenInput.networkSlug tokenInput.assetSlugs
      tokenInput.contractAddresses = ["0xa0b86991c6218b36c1d19d4a2e9eb0ce3606eb48"] := by
    decide +kernel
  have hlower : toAsciiLowercase tokenInput.networkSlug = tokenInput.networkSlug := by
    decide +kernel
  have hslugs : ∀ slug ∈ tokenInput.assetSlugs, toAsciiLowercase slug = slug := by decide +kernel
  have hresolve : resolveNetwork tokenRegistry "eth-mainnet" ["usd-coin"] = [.resolved {
      networkSlug := "eth-mainnet", chainId := 1, assetSlug := "usd-coin", symbol := "USDC"
      name := "USD Coin", decimals := 6, pricingAssetSlug := "usd-coin"
      kind := .erc20 "0xa0b86991c6218b36c1d19d4a2e9eb0ce3606eb48" }] := by decide +kernel
  obtain ⟨hplan, hrest⟩ := buildSearchPlan_complete hregistry tokenInput hlower hslugs 1
  obtain ⟨plan, hplan⟩ := hplan.mpr
    ⟨List.forall_mem_singleton.mpr ⟨_, _, hresolve, rfl⟩, by rw [hcontracts]; decide⟩
  exact ⟨plan, hplan, (hrest plan hplan).1.trans hcontracts⟩

end MotherApi.TransferFilters
