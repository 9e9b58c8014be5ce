import MotherApi.RegistryValidation

/-!
The indexes of a registry, against the lists they point into.

Every table answers with the positions at which the list has the key, no more and no less, and
the sorted positions are those of the sorted entries. Building them cannot fail for a catalog
that passed the checks.
-/

namespace MotherApi.RegistryIndexes

open MotherApi.Lib.Fallible MotherApi.Lib.Tables MotherApi.Strings MotherApi.Registry
open MotherApi.RegistryValidation

/-- The mapping is active, and so are its asset and its network. -/
def isLive (assets : List CanonicalAsset) (networks : List CanonicalNetwork)
    (mapping : CanonicalAssetChainMap) : Bool :=
  isActive mapping.status
    && (assets.any fun asset => asset.slug == mapping.assetSlug && isActive asset.status)
    && networks.any fun network => network.slug == mapping.networkSlug && isActive network.status

structure Built (registry : CanonicalRegistry) : Prop where
  asset : ∀ slug index, registry.assetIndexBySlug slug = some index ↔
    (registry.assets.get index).slug = slug
  aliasName : ∀ aliasName index, registry.assetIndexByAlias aliasName = some index ↔
    aliasName ∈ (registry.assets.get index).aliases
  network : ∀ slug index, registry.networkIndexBySlug slug = some index ↔
    (registry.networks.get index).slug = slug
  mapping : ∀ key index, registry.mappingIndexByIdentity key = some index ↔
    identity (registry.mappings.get index) = key
  erc20 : ∀ key index, registry.erc20IndexByNetworkAddress key = some index ↔
    isLive registry.assets registry.networks (registry.mappings.get index) = true ∧
      (registry.mappings.get index).tokenStandard = "erc20" ∧
      (registry.mappings.get index).networkSlug = key.1 ∧
      (registry.mappings.get index).deploymentAddress = some key.2
  activeAssets : registry.activeAssetIndexes.map registry.assets.get =
    (registry.assets.filter fun asset => isActive asset.status).insertionSort
      fun left right => assetKey left ≤ assetKey right
  activeMappings : ∀ slug, (registry.activeMappingIndexesByAsset slug).map registry.mappings.get =
    (registry.mappings.filter fun mapping => isLive registry.assets registry.networks mapping
      && mapping.assetSlug == slug).insertionSort
        fun left right => mappingKey left ≤ mappingKey right

/-! ### Positions and entries -/

section

variable {α κ : Type*}

lemma ofPairs_finRange [DecidableEq κ] {l : List α} {f : α → κ} (hnodup : (l.map f).Nodup) (k : κ)
    (index : Fin l.length) :
    ofPairs ((List.finRange l.length).map fun index => (f (l.get index), index)) k = some index ↔
      f (l.get index) = k := by
  have hkeys : (((List.finRange l.length).map fun index => (f (l.get index), index)).map
      Prod.fst).Nodup := by
    rw [List.map_map]
    rw [← List.map_get_finRange l, List.map_map] at hnodup
    exact hnodup
  rw [ofPairs_eq_some hkeys]
  simp

lemma map_get_sorted [LinearOrder κ] (l : List α) (p : α → Bool) (f : α → κ) :
    (((List.finRange l.length).filter fun index => p (l.get index)).insertionSort
        fun left right => f (l.get left) ≤ f (l.get right)).map l.get =
      (l.filter p).insertionSort fun left right => f left ≤ f right := by
  rw [List.map_insertionSort _ (fun left right => f left ≤ f right) _ _ fun _ _ _ _ => Iff.rfl]
  have hfilter : ((List.finRange l.length).filter fun index => p (l.get index)).map l.get =
      l.filter p := by
    have := List.filter_map (f := l.get) (p := p) (l := List.finRange l.length)
    rw [List.map_get_finRange] at this
    exact this.symm
  rw [hfilter]

end

/-! ### Building -/

section

variable {catalog : Catalog}

lemma isActive_eq_any {α : Type*} {l : List α} {slug : α → String} {status : α → String}
    (hnodup : (l.map slug).Nodup) (index : Fin l.length) :
    isActive (status (l.get index)) =
      l.any fun entry => slug entry == slug (l.get index) && isActive (status entry) := by
  rw [Bool.eq_iff_iff, List.any_eq_true]
  constructor
  · intro hactive
    exact ⟨l.get index, List.get_mem l index, by simpa using hactive⟩
  · rintro ⟨entry, hentry, heq⟩
    simp only [Bool.and_eq_true, beq_iff_eq] at heq
    rw [← List.inj_on_of_nodup_map hnodup hentry (List.get_mem l index) heq.1]
    exact heq.2

lemma exists_index {α : Type*} {l : List α} {slug : α → String} {key : String}
    (h : key ∈ l.map slug) : ∃ index : Fin l.length, slug (l.get index) = key := by
  obtain ⟨entry, hentry, rfl⟩ := List.mem_map.mp h
  obtain ⟨index, rfl⟩ := List.get_of_mem hentry
  exact ⟨index, rfl⟩

/-- The entry of an active mapping with an address, by its network and address. -/
def erc20Entry (mapping : CanonicalAssetChainMap) : String × String :=
  (mapping.networkSlug, mapping.deploymentAddress.getD "")

variable (hvalid : Valid catalog)

include hvalid

lemma validMapping_get (index : Fin catalog.assetChainMaps.length) :
    ValidMapping (catalog.assets.map (·.slug)) catalog.networks
      (catalog.assetChainMaps.get index) :=
  hvalid.mappings _ (List.get_mem _ _)

lemma exists_address {mapping : CanonicalAssetChainMap}
    (hmapping : mapping ∈ catalog.assetChainMaps)
    (herc20 : mapping.tokenStandard = "erc20") :
    mapping.isNative = false ∧ ∃ address, mapping.deploymentAddress = some address := by
  obtain ⟨network, -, -, hcheck⟩ := (hvalid.mappings mapping hmapping).network
  have hchecked := validateMapping_checked hcheck
  have hnative : mapping.isNative = false := by
    cases hnative : mapping.isNative with
    | false => rfl
    | true =>
      have := hchecked.native hnative
      rw [herc20] at this
      simp at this
  obtain ⟨-, address, haddress, -⟩ := hchecked.deployed hnative
  exact ⟨hnative, address, haddress⟩

/-- The loop over the mappings looks every one up, and marks those that are live. -/
lemma mapM_flags :
    ((List.finRange catalog.assetChainMaps.length).mapM fun index => do
      let assetIndex ← expect (ofPairs ((List.finRange catalog.assets.length).map fun index =>
        ((catalog.assets.get index).slug, index)) (catalog.assetChainMaps.get index).assetSlug)
      let networkIndex ← expect (ofPairs ((List.finRange catalog.networks.length).map fun index =>
        ((catalog.networks.get index).slug, index)) (catalog.assetChainMaps.get index).networkSlug)
      return (index, isActive (catalog.assetChainMaps.get index).status
        && isActive (catalog.assets.get assetIndex).status
        && isActive (catalog.networks.get networkIndex).status) : Except (Halt CatalogIssue) _) =
      .ok ((List.finRange catalog.assetChainMaps.length).map fun index =>
        (index, isLive catalog.assets catalog.networks (catalog.assetChainMaps.get index))) := by
  refine (mapM_eq_ok_map (P := fun _ => True) ?_).mpr ⟨fun _ _ => trivial, rfl⟩
  intro index _ flag
  have hmapping := validMapping_get hvalid index
  obtain ⟨assetIndex, hasset⟩ := exists_index hmapping.asset
  obtain ⟨network, hnetwork, hslug, -⟩ := hmapping.network
  obtain ⟨networkIndex, hnetworkIndex⟩ :=
    exists_index (hslug ▸ List.mem_map_of_mem (f := CanonicalNetwork.slug) hnetwork)
  rw [(ofPairs_finRange hvalid.assetSlugs _ assetIndex).mpr hasset,
    (ofPairs_finRange hvalid.networkSlugs _ networkIndex).mpr hnetworkIndex]
  have hlive : isLive catalog.assets catalog.networks (catalog.assetChainMaps.get index) =
      (isActive (catalog.assetChainMaps.get index).status
        && isActive (catalog.assets.get assetIndex).status
        && isActive (catalog.networks.get networkIndex).status) := by
    rw [isLive, isActive_eq_any hvalid.assetSlugs assetIndex,
      isActive_eq_any hvalid.networkSlugs networkIndex, hasset, hnetworkIndex]
  rw [hlive]
  simp only [expect, bind, Except.bind, pure, Except.pure, Except.ok.injEq, true_and]
  exact eq_comm

lemma mapM_erc20 (indexes : List (Fin catalog.assetChainMaps.length)) :
    ((indexes.filter fun index => (catalog.assetChainMaps.get index).tokenStandard = "erc20").mapM
      fun index => do
        let address ← expect (catalog.assetChainMaps.get index).deploymentAddress
        return (((catalog.assetChainMaps.get index).networkSlug, address), index) :
          Except (Halt CatalogIssue) _) =
      .ok ((indexes.filter fun index =>
          (catalog.assetChainMaps.get index).tokenStandard = "erc20").map fun index =>
        (erc20Entry (catalog.assetChainMaps.get index), index)) := by
  refine (mapM_eq_ok_map (P := fun _ => True) ?_).mpr ⟨fun _ _ => trivial, rfl⟩
  intro index hindex entry
  obtain ⟨-, address, haddress⟩ := exists_address hvalid (List.get_mem _ index)
    (by simpa using (List.mem_filter.mp hindex).2)
  rw [haddress, erc20Entry, haddress]
  simp only [expect, bind, Except.bind, pure, Except.pure, Except.ok.injEq, true_and,
    Option.getD_some]
  exact eq_comm

lemma nodup_erc20Entry : ((((List.finRange catalog.assetChainMaps.length).filter fun index =>
      isLive catalog.assets catalog.networks (catalog.assetChainMaps.get index)).filter fun index =>
      (catalog.assetChainMaps.get index).tokenStandard = "erc20").map fun index =>
        erc20Entry (catalog.assetChainMaps.get index)).Nodup := by
  have hall : ((List.finRange catalog.assetChainMaps.length).filterMap fun index =>
      activeAddress (catalog.assetChainMaps.get index)).Nodup := by
    have := hvalid.addresses
    rw [← List.map_get_finRange catalog.assetChainMaps, List.filterMap_map] at this
    exact this
  rw [List.filter_filter]
  refine hall.sublist ?_
  generalize List.finRange catalog.assetChainMaps.length = indexes
  induction indexes with
  | nil => exact List.Sublist.slnil
  | cons index indexes ih =>
    rw [List.filter_cons, List.filterMap_cons]
    split
    · rename_i hlive
      simp only [Bool.and_eq_true, decide_eq_true_eq, isLive] at hlive
      obtain ⟨herc20, ⟨hactive, -⟩, -⟩ := hlive
      obtain ⟨-, address, haddress⟩ := exists_address hvalid (List.get_mem _ index) herc20
      have hentry : activeAddress (catalog.assetChainMaps.get index) =
          some (erc20Entry (catalog.assetChainMaps.get index)) := by
        rw [activeAddress, if_pos hactive, erc20Entry, haddress, Option.map_some, Option.getD_some]
      rw [hentry, List.map_cons]
      exact ih.cons_cons _
    · split
      · exact ih
      · exact ih.cons _

lemma ofPairs_aliases (aliasName : String) (index : Fin catalog.assets.length) :
    ofPairs ((List.finRange catalog.assets.length).flatMap fun index =>
        (catalog.assets.get index).aliases.map fun aliasName => (aliasName, index)) aliasName =
      some index ↔ aliasName ∈ (catalog.assets.get index).aliases := by
  have hmem : ∀ index, (aliasName, index) ∈ ((List.finRange catalog.assets.length).flatMap
      fun index => (catalog.assets.get index).aliases.map fun aliasName => (aliasName, index)) ↔
        aliasName ∈ (catalog.assets.get index).aliases := by
    intro index
    simp
  constructor
  · intro hfound
    exact (hmem index).mp (mem_of_ofPairs hfound)
  · intro halias
    obtain ⟨other, hother⟩ := exists_ofPairs
      (List.mem_map_of_mem (f := Prod.fst) ((hmem index).mpr halias))
    have hslug := hvalid.aliases _ (List.get_mem _ index) _ (List.get_mem _ other) aliasName halias
      ((hmem other).mp (mem_of_ofPairs hother))
    have hsame : other = index := by
      have hindex := (ofPairs_finRange hvalid.assetSlugs _ index).mpr hslug
      rw [(ofPairs_finRange hvalid.assetSlugs _ other).mpr rfl, Option.some.injEq] at hindex
      exact hindex
    rw [← hsame]
    exact hother

lemma exists_fromCatalog (hcheck : validateCatalog catalog = .ok ()) :
    ∃ registry, fromCatalog catalog = .ok registry ∧ registry.assets = catalog.assets ∧
      registry.networks = catalog.networks ∧ registry.mappings = catalog.assetChainMaps ∧
      Built registry := by
  refine ⟨_, bind_eq_ok.mpr ⟨(), by rw [hcheck]; rfl, bind_eq_ok.mpr ⟨_, mapM_flags hvalid,
    bind_eq_ok.mpr ⟨_, mapM_erc20 hvalid _, rfl⟩⟩⟩, rfl, rfl, rfl, ?_⟩
  have hactive : ((((List.finRange catalog.assetChainMaps.length).map fun index =>
      (index, isLive catalog.assets catalog.networks (catalog.assetChainMaps.get index))).filter
        (·.2)).map (·.1)) = (List.finRange catalog.assetChainMaps.length).filter fun index =>
          isLive catalog.assets catalog.networks (catalog.assetChainMaps.get index) := by
    rw [List.filter_map, List.map_map]
    exact List.map_id _
  refine ⟨ofPairs_finRange hvalid.assetSlugs, ofPairs_aliases hvalid,
    ofPairs_finRange hvalid.networkSlugs, ofPairs_finRange hvalid.identities, ?_, ?_, ?_⟩
  · intro key index
    simp only [hactive]
    have hkeys := nodup_erc20Entry hvalid
    rw [ofPairs_eq_some (by rw [List.map_map]; exact hkeys)]
    simp only [List.mem_map, List.mem_filter, List.mem_finRange, true_and, decide_eq_true_eq,
      Prod.mk.injEq]
    constructor
    · rintro ⟨other, ⟨hlive, herc20⟩, rfl, rfl⟩
      obtain ⟨-, address, haddress⟩ := exists_address hvalid (List.get_mem _ other) herc20
      refine ⟨hlive, herc20, rfl, ?_⟩
      rw [haddress, erc20Entry, haddress, Option.getD_some]
    · rintro ⟨hlive, herc20, hnetwork, haddress⟩
      refine ⟨index, ⟨hlive, herc20⟩, ?_, rfl⟩
      rw [erc20Entry, hnetwork, haddress, Option.getD_some]
  · exact map_get_sorted catalog.assets (fun asset => isActive asset.status) assetKey
  · intro slug
    simp only [hactive, List.filter_filter]
    have := map_get_sorted catalog.assetChainMaps (fun mapping =>
      decide (mapping.assetSlug = slug) && isLive catalog.assets catalog.networks mapping)
      mappingKey
    refine this.trans ?_
    congr 1
    refine List.filter_congr fun mapping _ => ?_
    rw [Bool.and_comm]
    rfl

end

end MotherApi.RegistryIndexes
