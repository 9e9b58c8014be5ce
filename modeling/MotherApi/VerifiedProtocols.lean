import MotherApi.AssetLookup
import MotherApi.Lib.Groups
import MotherApi.SimulationEvidence
import MotherApi.TokenSelectors

/-!
The registry of verified protocols.

A protocol is declared with its targets, a pool and reserves, and each declaration is checked
against the canonical registry before any of it is used. The checks are a loop over the targets with
the keys seen, the pool found and the reserves found. What they accept is said of the lists of the
catalog, without the loop: the targets are one pool and the mapped tokens, and nothing is left to
the order they are declared in.
-/

namespace MotherApi.VerifiedProtocols

open MotherApi.Lib.Distinct MotherApi.Lib.Fallible MotherApi.Lib.Groups MotherApi.Strings
open MotherApi.Registry MotherApi.RegistryValidation MotherApi.RegistryAnswers
open MotherApi.AssetLookup (toNat_of_slug)
open MotherApi.TokenSelectors (eq_of_nodup_filterMap tokenCatalog tokenRegistry)
open MotherApi.SimulationEvidence (RealizedYieldReserve)

/-! ### The code -/

structure ProtocolTargetDeclaration where
  key : String
  kind : String
  assetSlug : Option String
  address : String
  enabled : Bool
  verified : Bool

structure ProtocolDeclaration where
  slug : String
  networkSlug : String
  family : String
  adapterKind : String
  adapterVersion : String
  enabled : Bool
  verified : Bool
  targets : List ProtocolTargetDeclaration

structure ProtocolCatalog where
  version : ℕ
  protocols : List ProtocolDeclaration

structure RealizedYieldProtocol extends SimulationEvidence.RealizedYieldProtocol where
  slug : String
  networkSlug : String
  chainId : ℤ
  adapterVersion : String
  deriving DecidableEq

def PROTOCOLS_VERSION : ℕ := 1

inductive TargetIssue
  | duplicateOrBlankKey
  | notVerifiedAddress (key : String)
  | onePool
  | noAssetSlug (key : String)
  | keyNotAssetSlug
  | unknownAsset (assetSlug : String)
  | noActiveMapping (assetSlug : String)
  | otherAddress (assetSlug : String)
  | unsupportedKind (kind : String)
  deriving DecidableEq

inductive ProtocolIssue
  | emptyFamily
  | notEnabledAndVerified
  | unsupportedAdapter (kind version : String)
  | unknownNetwork (networkSlug : String)
  | requiresEip155
  | target (issue : TargetIssue)
  | noPool
  | noReserves
  deriving DecidableEq

/-- `VerifiedProtocolRegistryError` of a catalog that could be read, with what the message names. -/
inductive Issue
  | unsupportedVersion (version : ℕ)
  | duplicateSlug
  | notNormalized (label value : String)
  | protocol (slug : String) (issue : ProtocolIssue)
  deriving DecidableEq

def compiledAdapterSupported (kind version : String) : Bool :=
  kind == "aave_v3_realized_yield" && version == "v1"

def validateSlug (label value : String) : Except Issue Unit :=
  orReturn (isAssetSlug value) (.notNormalized label value)

def isLowercaseEvmAddress (value : String) : Bool :=
  isEvmAddress value && value == toAsciiLowercase value

/-- The loop over the targets: the keys, the pool and the reserves so far. -/
structure Found where
  targetKeys : List String := []
  poolAddress : Option String := none
  reserves : List RealizedYieldReserve := []

def targetIssue (declaration : ProtocolDeclaration) (issue : TargetIssue) : Issue :=
  .protocol declaration.slug (.target issue)

/-- The branch of the reserves. -/
def findReserve (canonical : CanonicalRegistry) (declaration : ProtocolDeclaration)
    (target : ProtocolTargetDeclaration) : Except Issue RealizedYieldReserve := do
  let issue := targetIssue declaration
  let assetSlug ← okOr target.assetSlug (issue (.noAssetSlug target.key))
  validateSlug "reserve asset_slug" assetSlug
  orReturn (target.key == assetSlug) (issue .keyNotAssetSlug)
  let asset ← okOr ((canonical.assetBySlug assetSlug).filter (isActive ·.status))
    (issue (.unknownAsset assetSlug))
  let mapping ← okOr ((canonical.mapping assetSlug declaration.networkSlug).filter
    (isActive ·.status)) (issue (.noActiveMapping assetSlug))
  orReturn (mapping.deploymentAddress == some target.address) (issue (.otherAddress assetSlug))
  return ⟨assetSlug, asset.symbol, target.address⟩

def findTarget (canonical : CanonicalRegistry) (declaration : ProtocolDeclaration) (found : Found)
    (target : ProtocolTargetDeclaration) : Except Issue Found := do
  let issue := targetIssue declaration
  orReturn (trim target.key != "" && target.key ∉ found.targetKeys) (issue .duplicateOrBlankKey)
  let found := { found with targetKeys := target.key :: found.targetKeys }
  orReturn (target.enabled && target.verified && isLowercaseEvmAddress target.address)
    (issue (.notVerifiedAddress target.key))
  if target.kind = "pool" then do
    orReturn (target.key == "pool" && target.assetSlug.isNone && found.poolAddress.isNone)
      (issue .onePool)
    return { found with poolAddress := some target.address }
  else if target.kind = "reserve" then do
    let reserve ← findReserve canonical declaration target
    return { found with reserves := found.reserves ++ [reserve] }
  else .error (issue (.unsupportedKind target.kind))

def materializeProtocol (canonical : CanonicalRegistry) (declaration : ProtocolDeclaration) :
    Except Issue RealizedYieldProtocol := do
  let issue := Issue.protocol declaration.slug
  validateSlug "protocol slug" declaration.slug
  validateSlug "protocol network_slug" declaration.networkSlug
  orReturn (trim declaration.family != "") (issue .emptyFamily)
  orReturn (declaration.enabled && declaration.verified) (issue .notEnabledAndVerified)
  orReturn (compiledAdapterSupported declaration.adapterKind declaration.adapterVersion)
    (issue (.unsupportedAdapter declaration.adapterKind declaration.adapterVersion))
  let network ← okOr ((canonical.networkBySlug declaration.networkSlug).filter (isActive ·.status))
    (issue (.unknownNetwork declaration.networkSlug))
  let chainId ← okOr network.chainId (issue .requiresEip155)
  let found ← declaration.targets.foldlM (findTarget canonical declaration) {}
  let poolAddress ← okOr found.poolAddress (issue .noPool)
  orReturn (!found.reserves.isEmpty) (issue .noReserves)
  return {
    slug := declaration.slug
    networkSlug := declaration.networkSlug
    chainId
    adapterKind := declaration.adapterKind
    adapterVersion := declaration.adapterVersion
    poolAddress
    reserves := found.reserves.insertionSort fun left right => left.assetSlug ≤ right.assetSlug }

/-- The protocols by their slugs. -/
abbrev VerifiedProtocolRegistry := String → Option RealizedYieldProtocol

/-- The loop over the declarations. -/
def register (canonical : CanonicalRegistry) (protocolsBySlug : VerifiedProtocolRegistry)
    (declaration : ProtocolDeclaration) : Except Issue VerifiedProtocolRegistry := do
  let protocol ← materializeProtocol canonical declaration
  orReturn (protocolsBySlug protocol.slug).isNone .duplicateSlug
  return Function.update protocolsBySlug protocol.slug (some protocol)

/-- `from_json`, of a catalog that could be read. -/
def fromCatalog (catalog : ProtocolCatalog) (canonical : CanonicalRegistry) :
    Except Issue VerifiedProtocolRegistry := do
  orReturn (catalog.version == PROTOCOLS_VERSION) (.unsupportedVersion catalog.version)
  catalog.protocols.foldlM (register canonical) fun _ => none

def realizedYieldProtocol (registry : VerifiedProtocolRegistry) (slug : String) :
    Option RealizedYieldProtocol :=
  registry (toAsciiLowercase slug)

/-! ### What a declaration says -/

section

variable (catalog : Catalog)

structure IsPool (target : ProtocolTargetDeclaration) : Prop where
  key : target.key = "pool"
  kind : target.kind = "pool"
  assetSlug : target.assetSlug = none

/-- The target is the token that the catalog maps an active asset to. -/
structure IsReserve (networkSlug : String) (target : ProtocolTargetDeclaration)
    (reserve : RealizedYieldReserve) : Prop where
  key : target.key = reserve.assetSlug
  kind : target.kind = "reserve"
  assetSlug : target.assetSlug = some reserve.assetSlug
  address : target.address = reserve.underlyingAssetAddress
  asset : ∃ asset ∈ catalog.assets, asset.slug = reserve.assetSlug ∧
    isActive asset.status = true ∧ asset.symbol = reserve.assetSymbol
  mapping : ∃ mapping ∈ catalog.assetChainMaps,
    identity mapping = (reserve.assetSlug, networkSlug) ∧ isActive mapping.status = true ∧
      mapping.deploymentAddress = some reserve.underlyingAssetAddress

structure Usable (target : ProtocolTargetDeclaration) : Prop where
  enabled : target.enabled = true
  verified : target.verified = true
  address : isLowercaseEvmAddress target.address = true

/-- Every target can be used, under a key of its own, as the pool or as a reserve. -/
structure Wellformed (networkSlug : String)
    (targets : List ProtocolTargetDeclaration) : Prop where
  keys : (targets.map (·.key)).Nodup
  usable : ∀ target ∈ targets, Usable target
  read : ∀ target ∈ targets, IsPool target ∨ ∃ reserve, IsReserve catalog networkSlug target reserve

/-- The declaration is accepted, and the protocol is what it declares. -/
structure Declares (declaration : ProtocolDeclaration) (protocol : RealizedYieldProtocol) :
    Prop where
  slug : protocol.slug = declaration.slug
  networkSlug : protocol.networkSlug = declaration.networkSlug
  adapterKind : protocol.adapterKind = declaration.adapterKind
  adapterVersion : protocol.adapterVersion = declaration.adapterVersion
  normalized : isAssetSlug declaration.slug = true
  family : trim declaration.family ≠ ""
  enabled : declaration.enabled = true
  verified : declaration.verified = true
  adapter : declaration.adapterKind = "aave_v3_realized_yield" ∧ declaration.adapterVersion = "v1"
  network : ∃ network ∈ catalog.networks, network.slug = declaration.networkSlug ∧
    isActive network.status = true ∧ network.chainId = some protocol.chainId
  targets : Wellformed catalog declaration.networkSlug declaration.targets
  pool : ∃ target ∈ declaration.targets, IsPool target ∧ target.address = protocol.poolAddress
  reserves : ∀ reserve, reserve ∈ protocol.reserves ↔ ∃ target ∈ declaration.targets,
    IsReserve catalog declaration.networkSlug target reserve
  sorted : protocol.reserves.Pairwise fun left right => left.assetSlug < right.assetSlug
  nonempty : protocol.reserves ≠ []

end

variable {catalog : Catalog} {canonical : CanonicalRegistry}

lemma compiledAdapterSupported_iff {kind version : String} :
    compiledAdapterSupported kind version = true ↔
      kind = "aave_v3_realized_yield" ∧ version = "v1" := by
  simp [compiledAdapterSupported]

/-! ### One target -/

lemma trim_slug_ne {slug : String} (h : isAssetSlug slug = true) : trim slug ≠ "" := by
  have hplain : ∀ c ∈ slug.toList, isWhitespace c = false := fun c hc =>
    (toNat_of_slug (isAssetSlug_all h c hc)).2
  rw [trim_of_no_whitespace hplain]
  rintro rfl
  cases h

section

variable (hbuilt : BuiltFrom catalog canonical)

include hbuilt

lemma activeAsset_iff {slug : String} {asset : CanonicalAsset} (h : isAssetSlug slug = true) :
    (canonical.assetBySlug slug).filter (isActive ·.status) = some asset ↔
      asset ∈ catalog.assets ∧ asset.slug = slug ∧ isActive asset.status = true := by
  rw [Option.filter_eq_some_iff, assetBySlug_iff hbuilt, toAsciiLowercase_of_slug h, and_assoc]

lemma activeNetwork_iff {slug : String} {network : CanonicalNetwork}
    (h : isAssetSlug slug = true) :
    (canonical.networkBySlug slug).filter (isActive ·.status) = some network ↔
      network ∈ catalog.networks ∧ network.slug = slug ∧ isActive network.status = true := by
  rw [Option.filter_eq_some_iff, networkBySlug_iff hbuilt, toAsciiLowercase_of_slug h, and_assoc]

lemma activeMapping_iff {assetSlug networkSlug : String} {mapping : CanonicalAssetChainMap}
    (hasset : isAssetSlug assetSlug = true) (hnetwork : isAssetSlug networkSlug = true) :
    (canonical.mapping assetSlug networkSlug).filter (isActive ·.status) = some mapping ↔
      mapping ∈ catalog.assetChainMaps ∧ identity mapping = (assetSlug, networkSlug) ∧
        isActive mapping.status = true := by
  rw [Option.filter_eq_some_iff, mapping_iff hbuilt, toAsciiLowercase_of_slug hasset,
    toAsciiLowercase_of_slug hnetwork, identity, Prod.mk.injEq, and_assoc]

lemma IsReserve.normalized {networkSlug : String} {target : ProtocolTargetDeclaration}
    {reserve : RealizedYieldReserve} (h : IsReserve catalog networkSlug target reserve) :
    isAssetSlug reserve.assetSlug = true := by
  obtain ⟨asset, hasset, hslug, -⟩ := h.asset
  rw [← hslug]
  exact validateAsset_slug (hbuilt.valid.assets asset hasset)

lemma IsReserve.unique {networkSlug : String} {target : ProtocolTargetDeclaration}
    {reserve other : RealizedYieldReserve} (h : IsReserve catalog networkSlug target reserve)
    (h' : IsReserve catalog networkSlug target other) : reserve = other := by
  obtain ⟨asset, hasset, hslug, -, hsymbol⟩ := h.asset
  obtain ⟨asset', hasset', hslug', -, hsymbol'⟩ := h'.asset
  have hkey : reserve.assetSlug = other.assetSlug := h.key.symm.trans h'.key
  obtain rfl := asset_unique hbuilt hasset hasset' (by rw [hslug, hslug', hkey])
  obtain ⟨assetSlug, assetSymbol, address⟩ := reserve
  obtain ⟨assetSlug', assetSymbol', address'⟩ := other
  have haddress : address = address' := h.address.symm.trans h'.address
  simp only at hkey hsymbol hsymbol'
  rw [← hsymbol, ← hsymbol', hkey, haddress]

lemma findReserve_eq_ok {declaration : ProtocolDeclaration} {target : ProtocolTargetDeclaration}
    (hnetwork : isAssetSlug declaration.networkSlug = true) (hkind : target.kind = "reserve")
    {reserve : RealizedYieldReserve} : findReserve canonical declaration target = .ok reserve ↔
      IsReserve catalog declaration.networkSlug target reserve := by
  simp only [findReserve, validateSlug, bind_eq_ok, okOr_eq_ok, orReturn_eq_ok, beq_iff_eq, pure,
    Except.pure, Except.ok.injEq, exists_and_left, exists_const]
  constructor
  · rintro ⟨assetSlug, hassetSlug, hslug, hkey, asset, hasset, mapping, hmapping, haddress, rfl⟩
    obtain ⟨hasset, hname, hactive⟩ := (activeAsset_iff hbuilt hslug).mp hasset
    obtain ⟨hmapping, hidentity, hmapped⟩ := (activeMapping_iff hbuilt hslug hnetwork).mp hmapping
    exact ⟨hkey, hkind, hassetSlug, rfl, ⟨asset, hasset, hname, hactive, rfl⟩,
      ⟨mapping, hmapping, hidentity, hmapped, haddress⟩⟩
  · intro h
    have hslug := h.normalized hbuilt
    obtain ⟨asset, hasset, hname, hactive, hsymbol⟩ := h.asset
    obtain ⟨mapping, hmapping, hidentity, hmapped, haddress⟩ := h.mapping
    refine ⟨reserve.assetSlug, h.assetSlug, hslug, h.key, asset,
      (activeAsset_iff hbuilt hslug).mpr ⟨hasset, hname, hactive⟩, mapping,
      (activeMapping_iff hbuilt hslug hnetwork).mpr ⟨hmapping, hidentity, hmapped⟩, ?_, ?_⟩
    · rw [haddress, h.address]
    · rw [hsymbol, h.address]

/-- The round of a target succeeds exactly if its key is new and it is the pool or a reserve. -/
lemma findTarget_eq_ok {declaration : ProtocolDeclaration} {found found' : Found}
    {target : ProtocolTargetDeclaration}
    (hnetwork : isAssetSlug declaration.networkSlug = true) :
    findTarget canonical declaration found target = .ok found' ↔
      target.key ∉ found.targetKeys ∧ Usable target ∧
        (IsPool target ∧ found.poolAddress = none ∧
            found' = ⟨target.key :: found.targetKeys, some target.address, found.reserves⟩ ∨
          ∃ reserve, IsReserve catalog declaration.networkSlug target reserve ∧
            found' = ⟨target.key :: found.targetKeys, found.poolAddress,
              found.reserves ++ [reserve]⟩) := by
  have husable : (target.enabled && target.verified &&
      isLowercaseEvmAddress target.address) = true ↔ Usable target := by
    simp only [Bool.and_eq_true]
    exact ⟨fun ⟨⟨h, h'⟩, h''⟩ => ⟨h, h', h''⟩, fun ⟨h, h', h''⟩ => ⟨⟨h, h'⟩, h''⟩⟩
  have hkey : (IsPool target ∨
      ∃ reserve, IsReserve catalog declaration.networkSlug target reserve) →
        trim target.key ≠ "" := by
    rintro (hpool | ⟨reserve, hreserve⟩)
    · rw [hpool.key]
      decide
    · rw [hreserve.key]
      exact trim_slug_ne (hreserve.normalized hbuilt)
  simp only [findTarget, bind_eq_ok, orReturn_eq_ok, exists_and_left, exists_const, husable,
    Bool.and_eq_true, bne_iff_ne, ne_eq, decide_eq_true_eq]
  split_ifs with hpool hreserve
  · simp only [bind_eq_ok, orReturn_eq_ok, exists_and_left, exists_const, Bool.and_eq_true,
      beq_iff_eq, Option.isNone_iff_eq_none, pure, Except.pure, Except.ok.injEq]
    constructor
    · rintro ⟨⟨-, hnew⟩, hgood, ⟨⟨hname, hnone⟩, hfirst⟩, rfl⟩
      exact ⟨hnew, hgood, Or.inl ⟨⟨hname, hpool, hnone⟩, hfirst, rfl⟩⟩
    · rintro ⟨hnew, hgood, ⟨his, hfirst, rfl⟩ | ⟨reserve, his, -⟩⟩
      · exact ⟨⟨hkey (Or.inl his), hnew⟩, hgood, ⟨⟨his.key, his.assetSlug⟩, hfirst⟩, rfl⟩
      · have hkind := his.kind
        rw [hpool] at hkind
        simp at hkind
  · simp only [bind_eq_ok, findReserve_eq_ok hbuilt hnetwork hreserve, pure, Except.pure,
      Except.ok.injEq]
    constructor
    · rintro ⟨⟨-, hnew⟩, hgood, reserve, his, rfl⟩
      exact ⟨hnew, hgood, Or.inr ⟨reserve, his, rfl⟩⟩
    · rintro ⟨hnew, hgood, ⟨his, -⟩ | ⟨reserve, his, rfl⟩⟩
      · exact absurd his.kind hpool
      · exact ⟨⟨hkey (Or.inr ⟨reserve, his⟩), hnew⟩, hgood, reserve, his, rfl⟩
  · simp only [and_false, false_iff, not_and, not_or, not_exists]
    exact fun _ _ => ⟨fun his => absurd his.kind hpool, fun _ his => absurd his.kind hreserve⟩

end

/-! ### All targets -/

/-- What the loop has found is what the targets done declare. -/
structure Covers (catalog : Catalog) (networkSlug : String)
    (targets : List ProtocolTargetDeclaration) (found : Found) : Prop where
  wellformed : Wellformed catalog networkSlug targets
  keys : ∀ key, key ∈ found.targetKeys ↔ key ∈ targets.map (·.key)
  pool : ∀ address, found.poolAddress = some address ↔
    ∃ target ∈ targets, IsPool target ∧ target.address = address
  reserves : ∀ reserve, reserve ∈ found.reserves ↔
    ∃ target ∈ targets, IsReserve catalog networkSlug target reserve
  nodup : (found.reserves.map (·.assetSlug)).Nodup

lemma covers_nil (networkSlug : String) : Covers catalog networkSlug [] {} := by
  constructor
  · constructor <;> simp
  all_goals simp

lemma IsReserve.not_isPool {networkSlug : String} {target : ProtocolTargetDeclaration}
    {reserve : RealizedYieldReserve} (h : IsReserve catalog networkSlug target reserve) :
    ¬IsPool target := by
  intro hpool
  have hkind := h.kind
  rw [hpool.kind] at hkind
  simp at hkind

lemma exists_mem_concat {α : Type*} {l : List α} {a : α} {P : α → Prop} :
    (∃ x ∈ l ++ [a], P x) ↔ (∃ x ∈ l, P x) ∨ P a := by
  simp only [List.mem_append, List.mem_singleton, or_and_right, exists_or, exists_eq_left]

lemma forall_mem_concat {α : Type*} {l : List α} {a : α} {P : α → Prop} :
    (∀ x ∈ l ++ [a], P x) ↔ (∀ x ∈ l, P x) ∧ P a := by
  simp only [List.forall_mem_append, List.forall_mem_singleton]

namespace Covers

variable {networkSlug : String} {targets : List ProtocolTargetDeclaration} {found : Found}
  {target : ProtocolTargetDeclaration} (h : Covers catalog networkSlug targets found)
  (hnew : target.key ∉ found.targetKeys)

include h

lemma keys_concat (key : String) :
    key ∈ target.key :: found.targetKeys ↔ key ∈ (targets ++ [target]).map (·.key) := by
  rw [List.mem_cons, h.keys, List.map_append, List.mem_append, List.map_singleton,
    List.mem_singleton, or_comm]

include hnew

lemma wellformed_concat (husable : Usable target)
    (hread : IsPool target ∨ ∃ reserve, IsReserve catalog networkSlug target reserve) :
    Wellformed catalog networkSlug (targets ++ [target]) where
  keys := nodup_map_concat h.wellformed.keys fun _ hother heq =>
    hnew ((h.keys _).mpr (heq ▸ List.mem_map_of_mem hother))
  usable := forall_mem_concat.mpr ⟨h.wellformed.usable, husable⟩
  read := forall_mem_concat.mpr ⟨h.wellformed.read, hread⟩

lemma poolAddress_eq_none (hpool : IsPool target) : found.poolAddress = none := by
  rw [Option.eq_none_iff_forall_not_mem]
  intro address haddress
  obtain ⟨other, hother, his, -⟩ := (h.pool address).mp haddress
  refine hnew ((h.keys _).mpr ?_)
  rw [hpool.key, ← his.key]
  exact List.mem_map_of_mem hother

lemma concat_pool (husable : Usable target) (hpool : IsPool target) :
    Covers catalog networkSlug (targets ++ [target])
      ⟨target.key :: found.targetKeys, some target.address, found.reserves⟩ where
  wellformed := h.wellformed_concat hnew husable (Or.inl hpool)
  keys := h.keys_concat
  pool := by
    intro address
    rw [exists_mem_concat, ← h.pool, h.poolAddress_eq_none hnew hpool, Option.some.injEq]
    simp [hpool]
  reserves := by
    intro reserve
    rw [exists_mem_concat, h.reserves]
    exact (or_iff_left fun his => his.not_isPool hpool).symm
  nodup := h.nodup

lemma concat_reserve (hbuilt : BuiltFrom catalog canonical) (husable : Usable target)
    {reserve : RealizedYieldReserve} (hreserve : IsReserve catalog networkSlug target reserve) :
    Covers catalog networkSlug (targets ++ [target])
      ⟨target.key :: found.targetKeys, found.poolAddress, found.reserves ++ [reserve]⟩ where
  wellformed := h.wellformed_concat hnew husable (Or.inr ⟨reserve, hreserve⟩)
  keys := h.keys_concat
  pool := by
    intro address
    rw [exists_mem_concat, h.pool]
    exact (or_iff_left fun his => hreserve.not_isPool his.1).symm
  reserves := by
    intro other
    rw [exists_mem_concat, List.mem_append, List.mem_singleton, h.reserves]
    refine or_congr_right ⟨?_, fun his => his.unique hbuilt hreserve⟩
    rintro rfl
    exact hreserve
  nodup := by
    refine nodup_map_concat h.nodup fun other hother hslug => hnew ?_
    obtain ⟨target', htarget', his⟩ := (h.reserves other).mp hother
    rw [h.keys, hreserve.key, ← hslug, ← his.key]
    exact List.mem_map_of_mem htarget'

end Covers

section

variable (hbuilt : BuiltFrom catalog canonical) {declaration : ProtocolDeclaration}
  (hnetwork : isAssetSlug declaration.networkSlug = true)

include hbuilt hnetwork

lemma foldlM_findTarget_covers {found : Found}
    (h : declaration.targets.foldlM (findTarget canonical declaration) {} = .ok found) :
    Covers catalog declaration.networkSlug declaration.targets found := by
  refine foldlM_inv (Covers catalog declaration.networkSlug) ?_ (covers_nil _) h
  intro done target _ found found' hcovers hround
  obtain ⟨hnew, husable, ⟨hpool, -, rfl⟩ | ⟨reserve, hreserve, rfl⟩⟩ :=
    (findTarget_eq_ok hbuilt hnetwork).mp hround
  · exact hcovers.concat_pool hnew husable hpool
  · exact hcovers.concat_reserve hnew hbuilt husable hreserve

lemma exists_foldlM_findTarget
    (h : Wellformed catalog declaration.networkSlug declaration.targets) :
    ∃ found, declaration.targets.foldlM (findTarget canonical declaration) {} = .ok found := by
  have hreturns : Returns (fun _ => False)
      (Covers catalog declaration.networkSlug declaration.targets)
      (declaration.targets.foldlM (findTarget canonical declaration) {}) := by
    refine returns_foldlM (Covers catalog declaration.networkSlug) ?_ (covers_nil _)
    intro done target rest hsplit found hcovers
    have hmem : target ∈ declaration.targets := by simp [hsplit]
    have hnew : target.key ∉ found.targetKeys := by
      have hkeys := h.keys
      rw [hsplit, List.map_append, List.map_cons, List.nodup_append] at hkeys
      rw [hcovers.keys]
      exact fun hdone => hkeys.2.2 _ hdone _ List.mem_cons_self rfl
    have husable := h.usable target hmem
    rcases h.read target hmem with hpool | ⟨reserve, hreserve⟩
    · rw [(findTarget_eq_ok hbuilt hnetwork).mpr ⟨hnew, husable, Or.inl
        ⟨hpool, hcovers.poolAddress_eq_none hnew hpool, rfl⟩⟩]
      exact hcovers.concat_pool hnew husable hpool
    · rw [(findTarget_eq_ok hbuilt hnetwork).mpr ⟨hnew, husable, Or.inr ⟨reserve, hreserve, rfl⟩⟩]
      exact hcovers.concat_reserve hnew hbuilt husable hreserve
  cases hresult : declaration.targets.foldlM (findTarget canonical declaration) {} with
  | error e =>
    rw [hresult] at hreturns
    exact hreturns.elim
  | ok found => exact ⟨found, rfl⟩

end

/-! ### One declaration -/

lemma isEvm_of_chainId {network : CanonicalNetwork} (h : validateNetwork network = .ok ())
    {chainId : ℤ} (hchain : network.chainId = some chainId) :
    network.family = "evm" ∧ 0 < chainId := by
  unfold validateNetwork at h
  iterate 7 obtain ⟨-, h⟩ := check_bind.mp h
  split_ifs at h with hfamily
  · refine ⟨hfamily, ?_⟩
    split at h
    · cases h
    · rename_i positive hpositive
      rw [hchain, Option.filter_eq_some_iff, Option.some.injEq] at hpositive
      simpa [← hpositive.1] using hpositive.2
  · rw [ensure_eq_ok, hchain] at h
    simp at h

/-- Nothing is left to the order of the targets. -/
lemma Declares.of_perm {declaration : ProtocolDeclaration} {protocol : RealizedYieldProtocol}
    {targets : List ProtocolTargetDeclaration} (hperm : targets.Perm declaration.targets)
    (h : Declares catalog declaration protocol) :
    Declares catalog { declaration with targets } protocol where
  __ := h
  targets := by
    obtain ⟨hkeys, husable, hread⟩ := h.targets
    exact ⟨(hperm.map _).nodup_iff.mpr hkeys, fun target htarget => husable target
      (hperm.mem_iff.mp htarget), fun target htarget => hread target (hperm.mem_iff.mp htarget)⟩
  pool := by
    obtain ⟨target, htarget, hpool⟩ := h.pool
    exact ⟨target, hperm.mem_iff.mpr htarget, hpool⟩
  reserves := by
    intro reserve
    simp only [hperm.mem_iff]
    exact h.reserves reserve

section

variable (hbuilt : BuiltFrom catalog canonical) {declaration : ProtocolDeclaration}

include hbuilt

lemma Declares.unique {protocol other : RealizedYieldProtocol}
    (h : Declares catalog declaration protocol) (h' : Declares catalog declaration other) :
    protocol = other := by
  obtain ⟨network, hnetwork, hslug, -, hchain⟩ := h.network
  obtain ⟨network', hnetwork', hslug', -, hchain'⟩ := h'.network
  obtain rfl := network_unique hbuilt hnetwork hnetwork' (hslug.trans hslug'.symm)
  obtain ⟨target, htarget, hpool, haddress⟩ := h.pool
  obtain ⟨target', htarget', hpool', haddress'⟩ := h'.pool
  obtain rfl := List.inj_on_of_nodup_map h.targets.keys htarget htarget'
    (hpool.key.trans hpool'.key.symm)
  have hreserves : protocol.reserves = other.reserves := by
    refine eq_of_pairwise_lt h.sorted h'.sorted fun reserve => ?_
    rw [h.reserves, h'.reserves]
  have hchain : protocol.chainId = other.chainId := by
    rw [← Option.some.injEq, ← hchain, hchain']
  have hkind := h.adapterKind.trans h'.adapterKind.symm
  have hversion := h.adapterVersion.trans h'.adapterVersion.symm
  have hslug := h.slug.trans h'.slug.symm
  have hnetworkSlug := h.networkSlug.trans h'.networkSlug.symm
  have haddress := haddress.symm.trans haddress'
  obtain ⟨⟨kind, pool, reserves⟩, slug, networkSlug, chainId, version⟩ := protocol
  obtain ⟨⟨kind', pool', reserves'⟩, slug', networkSlug', chainId', version'⟩ := other
  simp only at hkind hversion hslug hnetworkSlug haddress hreserves hchain
  rw [hkind, hversion, hslug, hnetworkSlug, haddress, hreserves, hchain]

/-- What passes the checks is declared. -/
lemma materializeProtocol_declares {protocol : RealizedYieldProtocol}
    (h : materializeProtocol canonical declaration = .ok protocol) :
    Declares catalog declaration protocol := by
  simp only [materializeProtocol, validateSlug, bind_eq_ok, okOr_eq_ok, orReturn_eq_ok,
    Bool.and_eq_true, bne_iff_ne, compiledAdapterSupported_iff, exists_and_left, exists_const] at h
  obtain ⟨hslug, hnetworkSlug, hfamily, ⟨henabled, hverified⟩, hadapter, network, hnetwork, chainId,
    hchainId, found, hfound, poolAddress, hpool, hnonempty, heq⟩ := h
  have hcovers := foldlM_findTarget_covers hbuilt hnetworkSlug hfound
  obtain ⟨hnetwork, hname, hactive⟩ := (activeNetwork_iff hbuilt hnetworkSlug).mp hnetwork
  cases heq
  exact {
    slug := rfl, networkSlug := rfl, adapterKind := rfl, adapterVersion := rfl
    normalized := hslug, family := hfamily, enabled := henabled, verified := hverified
    adapter := hadapter
    network := ⟨network, hnetwork, hname, hactive, hchainId⟩
    targets := hcovers.wellformed
    pool := (hcovers.pool poolAddress).mp hpool
    reserves := fun reserve => by rw [List.mem_insertionSort, hcovers.reserves]
    sorted := pairwise_lt_insertionSort hcovers.nodup
    nonempty := by
      intro hempty
      have hlength := congrArg List.length hempty
      rw [List.length_insertionSort, List.length_nil, List.length_eq_zero_iff] at hlength
      simp [hlength] at hnonempty }

/-- What is declared passes the checks. -/
lemma exists_materializeProtocol {protocol : RealizedYieldProtocol}
    (h : Declares catalog declaration protocol) :
    ∃ protocol, materializeProtocol canonical declaration = .ok protocol := by
  obtain ⟨network, hnetwork, hname, hactive, hchain⟩ := h.network
  have hnetworkSlug : isAssetSlug declaration.networkSlug = true :=
    hname ▸ validateNetwork_slug (hbuilt.valid.networks network hnetwork)
  obtain ⟨found, hfound⟩ := exists_foldlM_findTarget hbuilt hnetworkSlug h.targets
  have hcovers := foldlM_findTarget_covers hbuilt hnetworkSlug hfound
  have hreserves (reserve : RealizedYieldReserve) :
      reserve ∈ found.reserves ↔ reserve ∈ protocol.reserves := by
    rw [hcovers.reserves, h.reserves]
  obtain ⟨reserve, hreserve⟩ := List.exists_mem_of_ne_nil _ h.nonempty
  have hnonempty : (!found.reserves.isEmpty) = true := by
    rw [Bool.not_eq_true', List.isEmpty_eq_false_iff_exists_mem]
    exact ⟨reserve, (hreserves reserve).mpr hreserve⟩
  constructor
  simp only [materializeProtocol, validateSlug, bind_eq_ok, okOr_eq_ok, orReturn_eq_ok,
    Bool.and_eq_true, bne_iff_ne, compiledAdapterSupported_iff, exists_and_left, exists_const]
  exact ⟨h.normalized, hnetworkSlug, h.family, ⟨h.enabled, h.verified⟩, h.adapter, network,
    (activeNetwork_iff hbuilt hnetworkSlug).mpr ⟨hnetwork, hname, hactive⟩, protocol.chainId,
    hchain, found, hfound, protocol.poolAddress, (hcovers.pool _).mpr h.pool, hnonempty, rfl⟩

/-- The checks accept exactly what is declared. -/
lemma materializeProtocol_eq_ok {protocol : RealizedYieldProtocol} :
    materializeProtocol canonical declaration = .ok protocol ↔
      Declares catalog declaration protocol := by
  refine ⟨materializeProtocol_declares hbuilt, fun h => ?_⟩
  obtain ⟨other, hother⟩ := exists_materializeProtocol hbuilt h
  rw [hother, h.unique hbuilt (materializeProtocol_declares hbuilt hother)]

lemma Declares.nodup_addresses {protocol : RealizedYieldProtocol}
    (h : Declares catalog declaration protocol) :
    (protocol.reserves.map (·.underlyingAssetAddress)).Nodup := by
  have hslugs : (protocol.reserves.map (·.assetSlug)).Nodup :=
    List.pairwise_map.mpr (h.sorted.imp ne_of_lt)
  refine List.Nodup.map_on ?_ hslugs.of_map
  intro reserve hreserve other hother haddress
  obtain ⟨target, -, his⟩ := (h.reserves reserve).mp hreserve
  obtain ⟨target', -, his'⟩ := (h.reserves other).mp hother
  obtain ⟨mapping, hmapping, hidentity, hactive, hdeployed⟩ := his.mapping
  obtain ⟨mapping', hmapping', hidentity', hactive', hdeployed'⟩ := his'.mapping
  rw [identity, Prod.mk.injEq] at hidentity hidentity'
  have hat : activeAddress mapping =
      some (declaration.networkSlug, reserve.underlyingAssetAddress) := by
    simp [activeAddress, hactive, hdeployed, hidentity.2]
  have hat' : activeAddress mapping' =
      some (declaration.networkSlug, reserve.underlyingAssetAddress) := by
    simp [activeAddress, hactive', hdeployed', hidentity'.2, haddress]
  obtain rfl := eq_of_nodup_filterMap hbuilt.valid.addresses hmapping hmapping' hat hat'
  exact List.inj_on_of_nodup_map hslugs hreserve hother (hidentity.1.symm.trans hidentity'.1)

end

/-! ### The catalog -/

/-- The protocol can be asked for: its network has the chain id, its reserves are tokens of the
catalog that differ, and its addresses can be put into a call. -/
structure Callable (catalog : Catalog) (protocol : RealizedYieldProtocol) : Prop where
  network : ∃ network ∈ catalog.networks, network.slug = protocol.networkSlug ∧
    network.family = "evm" ∧ network.chainId = some protocol.chainId ∧ 0 < protocol.chainId
  reserves : ∀ reserve ∈ protocol.reserves, ∃ mapping ∈ catalog.assetChainMaps,
    identity mapping = (reserve.assetSlug, protocol.networkSlug) ∧
      mapping.deploymentAddress = some reserve.underlyingAssetAddress
  distinct : (protocol.reserves.map (·.underlyingAssetAddress)).Nodup
  addresses : isLowercaseEvmAddress protocol.poolAddress = true ∧
    ∀ reserve ∈ protocol.reserves, isLowercaseEvmAddress reserve.underlyingAssetAddress = true

/-- The registry has the protocols of the declarations read. -/
structure Registered (catalog : Catalog) (declarations : List ProtocolDeclaration)
    (registry : VerifiedProtocolRegistry) : Prop where
  slugs : (declarations.map (·.slug)).Nodup
  accepted : ∀ declaration ∈ declarations, ∃ protocol, Declares catalog declaration protocol
  protocols : ∀ slug protocol, registry slug = some protocol ↔ ∃ declaration ∈ declarations,
    declaration.slug = slug ∧ Declares catalog declaration protocol

section

variable (hbuilt : BuiltFrom catalog canonical)

include hbuilt

lemma Declares.callable {declaration : ProtocolDeclaration} {protocol : RealizedYieldProtocol}
    (h : Declares catalog declaration protocol) : Callable catalog protocol where
  network := by
    obtain ⟨network, hnetwork, hslug, -, hchain⟩ := h.network
    obtain ⟨hfamily, hpos⟩ := isEvm_of_chainId (hbuilt.valid.networks network hnetwork) hchain
    exact ⟨network, hnetwork, hslug.trans h.networkSlug.symm, hfamily, hchain, hpos⟩
  reserves := by
    intro reserve hreserve
    obtain ⟨target, -, his⟩ := (h.reserves reserve).mp hreserve
    obtain ⟨mapping, hmapping, hidentity, -, hdeployed⟩ := his.mapping
    exact ⟨mapping, hmapping, h.networkSlug ▸ hidentity, hdeployed⟩
  distinct := h.nodup_addresses hbuilt
  addresses := by
    obtain ⟨target, htarget, -, haddress⟩ := h.pool
    refine ⟨haddress ▸ (h.targets.usable target htarget).address, fun reserve hreserve => ?_⟩
    obtain ⟨target, htarget, his⟩ := (h.reserves reserve).mp hreserve
    exact his.address ▸ (h.targets.usable target htarget).address

/-- The round of a declaration. -/
lemma Registered.concat {declarations : List ProtocolDeclaration}
    {registry : VerifiedProtocolRegistry} {declaration : ProtocolDeclaration}
    {protocol : RealizedYieldProtocol} (h : Registered catalog declarations registry)
    (hnew : registry protocol.slug = none) (hdeclares : Declares catalog declaration protocol) :
    Registered catalog (declarations ++ [declaration])
      (Function.update registry protocol.slug (some protocol)) where
  slugs := by
    refine nodup_map_concat h.slugs fun other hother hslug => ?_
    obtain ⟨protocol', hdeclares'⟩ := h.accepted other hother
    have hfound := (h.protocols protocol.slug protocol').mpr
      ⟨other, hother, hslug.trans hdeclares.slug.symm, hdeclares'⟩
    rw [hnew] at hfound
    cases hfound
  accepted := forall_mem_concat.mpr ⟨h.accepted, protocol, hdeclares⟩
  protocols := by
    intro slug protocol'
    rw [exists_mem_concat]
    by_cases hslug : slug = protocol.slug
    · subst hslug
      rw [Function.update_self, ← h.protocols, hnew, Option.some.injEq]
      constructor
      · rintro rfl
        exact Or.inr ⟨hdeclares.slug.symm, hdeclares⟩
      · rintro (hfound | ⟨-, hdeclares'⟩)
        · cases hfound
        · exact hdeclares.unique hbuilt hdeclares'
    · rw [Function.update_of_ne hslug, h.protocols]
      refine (or_iff_left fun his => hslug ?_).symm
      exact his.1.symm.trans hdeclares.slug.symm

lemma register_eq_ok {registry registry' : VerifiedProtocolRegistry}
    {declaration : ProtocolDeclaration} : register canonical registry declaration = .ok registry' ↔
      ∃ protocol, Declares catalog declaration protocol ∧ registry protocol.slug = none ∧
        registry' = Function.update registry protocol.slug (some protocol) := by
  simp only [register, bind_eq_ok, orReturn_eq_ok, Option.isNone_iff_eq_none, exists_and_left,
    exists_const, materializeProtocol_eq_ok hbuilt, pure, Except.pure, Except.ok.injEq]
  simp only [eq_comm]

lemma registered_of_fromCatalog {protocols : ProtocolCatalog} {registry : VerifiedProtocolRegistry}
    (h : fromCatalog protocols canonical = .ok registry) :
    protocols.version = PROTOCOLS_VERSION ∧ Registered catalog protocols.protocols registry := by
  obtain ⟨⟨⟩, hversion, h⟩ := bind_eq_ok.mp h
  rw [orReturn_eq_ok, beq_iff_eq] at hversion
  refine ⟨hversion, foldlM_inv (Registered catalog) ?_ ?_ h⟩
  · intro done declaration _ registry registry' hdone hround
    obtain ⟨protocol, hdeclares, hnew, rfl⟩ := (register_eq_ok hbuilt).mp hround
    exact hdone.concat hbuilt hnew hdeclares
  · constructor <;> simp

lemma exists_fromCatalog {protocols : ProtocolCatalog}
    (hversion : protocols.version = PROTOCOLS_VERSION)
    (hslugs : (protocols.protocols.map (·.slug)).Nodup)
    (haccepted : ∀ declaration ∈ protocols.protocols,
      ∃ protocol, Declares catalog declaration protocol) :
    ∃ registry, fromCatalog protocols canonical = .ok registry := by
  have hreturns : Returns (fun _ => False) (Registered catalog protocols.protocols)
      (protocols.protocols.foldlM (register canonical) fun _ => none) := by
    refine returns_foldlM (Registered catalog) ?_ (by constructor <;> simp)
    intro done declaration rest hsplit registry hdone
    obtain ⟨protocol, hdeclares⟩ := haccepted declaration (by simp [hsplit])
    have hnew : registry protocol.slug = none := by
      rw [Option.eq_none_iff_forall_not_mem]
      intro other hother
      obtain ⟨declaration', hmem, hslug, -⟩ := (hdone.protocols _ other).mp hother
      rw [hsplit, List.map_append, List.map_cons, List.nodup_append] at hslugs
      exact hslugs.2.2 _ (List.mem_map_of_mem hmem) _ List.mem_cons_self
        (hslug.trans hdeclares.slug)
    rw [(register_eq_ok hbuilt).mpr ⟨protocol, hdeclares, hnew, rfl⟩]
    exact hdone.concat hbuilt hnew hdeclares
  cases hresult : protocols.protocols.foldlM (register canonical) fun _ => none with
  | error e =>
    rw [hresult] at hreturns
    exact hreturns.elim
  | ok registry =>
    refine ⟨registry, bind_eq_ok.mpr ⟨(), ?_, hresult⟩⟩
    rw [orReturn_eq_ok, beq_iff_eq]
    exact hversion

end

/-- **The registry of protocols is the declarations.** -/
theorem fromCatalog_exact (hcanonical : Registry.fromCatalog catalog = .ok canonical)
    (protocols : ProtocolCatalog) :
    ((∃ registry, fromCatalog protocols canonical = .ok registry) ↔
      protocols.version = PROTOCOLS_VERSION ∧ (protocols.protocols.map (·.slug)).Nodup ∧
        ∀ declaration ∈ protocols.protocols,
          ∃ protocol, Declares catalog declaration protocol) ∧
    (∀ registry, fromCatalog protocols canonical = .ok registry → ∀ slug protocol,
      realizedYieldProtocol registry slug = some protocol ↔ ∃ declaration ∈ protocols.protocols,
        declaration.slug = toAsciiLowercase slug ∧ Declares catalog declaration protocol) ∧
    (∀ declaration protocol, materializeProtocol canonical declaration = .ok protocol →
      Callable catalog protocol) ∧
    ∀ declaration targets, targets.Perm declaration.targets → ∀ protocol,
      materializeProtocol canonical { declaration with targets } = .ok protocol ↔
        materializeProtocol canonical declaration = .ok protocol := by
  have hbuilt := fromCatalog_builtFrom hcanonical
  refine ⟨⟨?_, ?_⟩, ?_, ?_, ?_⟩
  · rintro ⟨registry, h⟩
    obtain ⟨hversion, hregistered⟩ := registered_of_fromCatalog hbuilt h
    exact ⟨hversion, hregistered.slugs, hregistered.accepted⟩
  · rintro ⟨hversion, hslugs, haccepted⟩
    exact exists_fromCatalog hbuilt hversion hslugs haccepted
  · intro registry h slug protocol
    exact (registered_of_fromCatalog hbuilt h).2.protocols _ protocol
  · intro declaration protocol h
    exact (materializeProtocol_declares hbuilt h).callable hbuilt
  · intro declaration targets hperm protocol
    rw [materializeProtocol_eq_ok hbuilt, materializeProtocol_eq_ok hbuilt]
    refine ⟨fun h => ?_, fun h => h.of_perm hperm⟩
    have hback : Declares catalog
        { { declaration with targets } with targets := declaration.targets } protocol :=
      h.of_perm hperm.symm
    exact hback

/-- The declaration of Aave with one of its reserves, and the pool last. -/
def aaveDeclaration : ProtocolDeclaration where
  slug := "aave-v3"
  networkSlug := "eth-mainnet"
  family := "aave-v3"
  adapterKind := "aave_v3_realized_yield"
  adapterVersion := "v1"
  enabled := true
  verified := true
  targets := [
    { key := "usd-coin", kind := "reserve", assetSlug := some "usd-coin"
      address := "0xa0b86991c6218b36c1d19d4a2e9eb0ce3606eb48", enabled := true, verified := true },
    { key := "pool", kind := "pool", assetSlug := none
      address := "0x87870bca3f3fd6335c3f4ce8392d69350b4fa4e2", enabled := true, verified := true }]

def aaveProtocol : RealizedYieldProtocol where
  adapterKind := "aave_v3_realized_yield"
  poolAddress := "0x87870bca3f3fd6335c3f4ce8392d69350b4fa4e2"
  reserves := [⟨"usd-coin", "USDC", "0xa0b86991c6218b36c1d19d4a2e9eb0ce3606eb48"⟩]
  slug := "aave-v3"
  networkSlug := "eth-mainnet"
  chainId := 1
  adapterVersion := "v1"

lemma materializeProtocol_aave :
    materializeProtocol tokenRegistry aaveDeclaration = .ok aaveProtocol := by
  decide +kernel

def aaveRegistry : VerifiedProtocolRegistry :=
  Function.update (fun _ => none) "aave-v3" (some aaveProtocol)

lemma fromCatalog_aave : fromCatalog ⟨1, [aaveDeclaration]⟩ tokenRegistry = .ok aaveRegistry := by
  have hround : register tokenRegistry (fun _ => none) aaveDeclaration = .ok aaveRegistry := by
    rw [register, materializeProtocol_aave]
    rfl
  simp only [fromCatalog, List.foldlM_cons, List.foldlM_nil, hround]
  rfl

theorem fromCatalog_exact_aave :
    Callable tokenCatalog aaveProtocol ∧
      realizedYieldProtocol aaveRegistry "AAVE-v3" = some aaveProtocol := by
  have hcanonical : Registry.fromCatalog tokenCatalog = .ok tokenRegistry := eq_ok_value _ _
  obtain ⟨-, hfound, hcallable, -⟩ := fromCatalog_exact hcanonical ⟨1, [aaveDeclaration]⟩
  refine ⟨hcallable _ _ materializeProtocol_aave, (hfound _ fromCatalog_aave _ _).mpr
    ⟨aaveDeclaration, by simp, by decide +kernel, ?_⟩⟩
  exact materializeProtocol_declares (fromCatalog_builtFrom hcanonical) materializeProtocol_aave

end MotherApi.VerifiedProtocols
