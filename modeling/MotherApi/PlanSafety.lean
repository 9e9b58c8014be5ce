import MotherApi.BalanceResponse
import MotherApi.TokenSelectors

/-!
Planning a balance request does not go wrong.

A plan can be refused because the catalog does not support the network or the asset. Every
other error of planning guards against answers of the catalog that a registry never gives: the
resolutions are those of the selectors, their chain ids are the network's, and two asset slugs
have one balance only if they are one slug. What is planned can be sent.
-/

namespace MotherApi.PlanSafety

open MotherApi.Lib.Fallible MotherApi.Strings MotherApi.Registry
open MotherApi.Registry.CanonicalRegistry MotherApi.BalanceCommand MotherApi.BalanceTargets
open MotherApi.BalancePlan MotherApi.BalanceResponse MotherApi.RegistryAnswers
open MotherApi.TokenSelectors
open MotherApi.RegistryValidation hiding identity

/-- The errors that say what the catalog does not support. -/
inductive IsUnsupported : Halt BalanceSnapshotServiceError → Prop
  | network (networkSlug : String) : IsUnsupported (.error (.unsupportedNetwork networkSlug))
  | asset (networkSlug assetSlug : String) :
    IsUnsupported (.error (.unsupportedAsset networkSlug assetSlug))

/-- The chain id of an active network. -/
def HasChainId (registry : CanonicalRegistry) (networkSlug : String) (chainId : ℤ) : Prop :=
  ∃ network, registry.activeNetworkBySlug networkSlug = some network ∧
    network.chainId = some chainId ∧ 0 < chainId

lemma HasChainId.unique {registry : CanonicalRegistry} {networkSlug : String} {chainId other : ℤ}
    (h : HasChainId registry networkSlug chainId) (hother : HasChainId registry networkSlug other) :
    chainId = other := by
  obtain ⟨network, hnetwork, hid, -⟩ := h
  obtain ⟨network', hnetwork', hid', -⟩ := hother
  rw [hnetwork, Option.some.injEq] at hnetwork'
  subst hnetwork'
  rw [hid, Option.some.injEq] at hid'
  exact hid'

lemma targetFromMapping_chainId {networkSlug : String} {chainId : Option ℤ}
    {asset : CanonicalAsset} {mapping : CanonicalAssetChainMap} {target : BalanceTarget}
    (h : targetFromMapping networkSlug chainId asset mapping = some target) :
    chainId = some target.chainId := by
  unfold targetFromMapping at h
  simp only [Option.bind_eq_bind, Option.bind_eq_some_iff, Option.pure_def,
    Option.some.injEq] at h
  obtain ⟨id, hid, -, -, -, -, rfl⟩ := h
  exact (Option.filter_eq_some_iff.mp hid).1

/-! ### What the registry answers -/

section

variable {catalog : Catalog} {registry : CanonicalRegistry} (h : BuiltFrom catalog registry)

include h

/-- What a slug in lower case resolves to, on a network in lower case. -/
structure ResolvedTo (registry : CanonicalRegistry) (networkSlug assetSlug : String)
    (target : BalanceTarget) : Prop where
  network : target.networkSlug = networkSlug
  asset : target.assetSlug = assetSlug
  chain : HasChainId registry networkSlug target.chainId
  kind : ∀ address, target.kind = .erc20 address → toAsciiLowercase address = address

lemma resolveAsset_resolvedTo {networkSlug assetSlug : String} {target : BalanceTarget}
    (hnetwork : toAsciiLowercase networkSlug = networkSlug)
    (hasset : toAsciiLowercase assetSlug = assetSlug)
    (hresolved : resolveAsset registry networkSlug assetSlug = .resolved target) :
    ResolvedTo registry networkSlug assetSlug target := by
  obtain ⟨network, asset, mapping, hby⟩ := resolveAsset_iff.mp hresolved
  obtain ⟨htarget, hpositive, htargetAsset, -, -⟩ := targetFromMapping_ok hby.isTarget
  refine ⟨?_, ?_, ⟨network, hby.onNetwork, targetFromMapping_chainId hby.isTarget, hpositive⟩, ?_⟩
  · rw [htarget, ((activeNetworkBySlug_iff h).mp hby.onNetwork).2.1, hnetwork]
  · rw [htargetAsset, ((assetBySlug_iff h _ _).mp hby.ofAsset.1).2, hasset]
  · intro address hkind
    have hof := targetFromMapping_kind hby.isTarget
    rw [hkind] at hof
    obtain ⟨hstandard, haddress⟩ := kindFromMapping_erc20 hof
    obtain ⟨declared, -, -, hcheck⟩ := (h.valid.mappings mapping (hby.mem h).1).network
    have hchecked := validateMapping_checked hcheck
    have hnative : mapping.isNative = false := by
      by_contra hnative
      rw [hchecked.native (by simpa using hnative)] at hstandard
      simp at hstandard
    obtain ⟨-, deployed, hdeployed, hlower, -⟩ := hchecked.deployed hnative
    rw [haddress, Option.some.injEq] at hdeployed
    rw [hdeployed, hlower]

lemma resolveAsset_key_inj {networkSlug slug slug' : String} {target target' : BalanceTarget}
    (hnetwork : toAsciiLowercase networkSlug = networkSlug) (hlower : toAsciiLowercase slug = slug)
    (hlower' : toAsciiLowercase slug' = slug')
    (hslug : resolveAsset registry networkSlug slug = .resolved target)
    (hslug' : resolveAsset registry networkSlug slug' = .resolved target')
    (hkey : TargetKey.fromKind target.kind = TargetKey.fromKind target'.kind) : slug = slug' := by
  have hkind : target.kind = target'.kind := by
    have hto := (resolveAsset_resolvedTo h hnetwork hlower hslug).kind
    have hto' := (resolveAsset_resolvedTo h hnetwork hlower' hslug').kind
    cases hcase : target.kind with
    | native => cases hcase' : target'.kind <;> simp_all [TargetKey.fromKind]
    | erc20 address =>
      cases hcase' : target'.kind with
      | native => simp [TargetKey.fromKind, hcase, hcase'] at hkey
      | erc20 address' =>
        simp only [TargetKey.fromKind, hcase, hcase', TargetKey.erc20.injEq] at hkey
        rw [hto address hcase, hto' address' hcase'] at hkey
        rw [hkey]
  rw [← hlower, ← hlower']
  exact resolveAsset_kind_inj h hslug hslug' hkind

omit h in
lemma resolveAsset_skipped {networkSlug assetSlug network asset : String}
    (hskipped : resolveAsset registry networkSlug assetSlug = .unsupportedPair network asset ∨
      resolveAsset registry networkSlug assetSlug = .unsupportedTokenStandard network asset) :
    network = networkSlug ∧ asset = assetSlug := by
  unfold resolveAsset resolveTarget at hskipped
  simp only at hskipped
  repeat' split at hskipped
  all_goals rcases hskipped with hskipped | hskipped <;> cases hskipped
  all_goals exact ⟨rfl, rfl⟩

lemma resolveEvmNetwork_resolvedTo {networkSlug : String} {network : BalanceNetworkResolution}
    (hlower : toAsciiLowercase networkSlug = networkSlug)
    (hnetwork : resolveEvmNetwork registry networkSlug = some network) :
    network.networkSlug = networkSlug ∧ HasChainId registry networkSlug network.chainId := by
  unfold resolveEvmNetwork at hnetwork
  simp only [Option.bind_eq_bind, Option.bind_eq_some_iff] at hnetwork
  obtain ⟨canonical, hcanonical, hnetwork⟩ := hnetwork
  split at hnetwork
  · cases hnetwork
  rename_i hactive
  simp only [not_or, not_not] at hactive
  obtain ⟨chainId, hchainId, hnetwork⟩ := Option.bind_eq_some_iff.mp hnetwork
  obtain ⟨hsome, hpositive⟩ := Option.filter_eq_some_iff.mp hchainId
  simp only [Option.pure_def, Option.some.injEq] at hnetwork
  subst hnetwork
  refine ⟨?_, canonical, ?_, hsome, by simpa using hpositive⟩
  · rw [((networkBySlug_iff h _ _).mp hcanonical).2, hlower]
  · rw [activeNetworkBySlug, hcanonical]
    simp [isActive, hactive.1]

omit h in
lemma resolveErc20Contract_resolvedTo {network : BalanceNetworkResolution} {address : String}
    {target : BalanceTarget}
    (hresolved : resolveErc20Contract registry network address = .resolved target) :
    target.networkSlug = network.networkSlug ∧ target.chainId = network.chainId := by
  obtain ⟨metadata, -, hid, htarget⟩ := resolveErc20Contract_resolved_iff.mp hresolved
  have hchain := targetFromMapping_chainId htarget
  rw [hid, Option.some.injEq] at hchain
  exact ⟨(targetFromMapping_ok htarget).1, hchain.symm⟩

end

/-! ### The loops -/

/-- What the loops keep: the targets of asset slugs are of slugs done, the chain id is the
network's, and there are no more targets than selectors done. -/
structure Safe (registry : CanonicalRegistry) (networkSlug : String) (slugs : List String)
    (selectorsDone : ℕ) (state : Planning) : Prop where
  table : TableOf state.targets state.targetIndexes
  chain : ∀ chainId, state.chainId = some chainId → HasChainId registry networkSlug chainId
  few : state.targets.length ≤ selectorsDone
  first : ∀ planned ∈ state.targets, planned.firstTarget.selector.isAssetSlug = true →
    ∃ slug ∈ slugs, ∃ target, resolveAsset registry networkSlug slug = .resolved target ∧
      planned.key = TargetKey.fromKind target.kind

section

variable {catalog : Catalog} {registry : CanonicalRegistry} {networkSlug : String}
  {slugs : List String} {selectorsDone : ℕ} {state : Planning}

lemma pushPlannedTarget_returns (htable : TableOf state.targets state.targetIndexes)
    {target : ResolvedBalanceTarget}
    (hnew : target.selector.isAssetSlug = true → ∀ planned ∈ state.targets,
      planned.firstTarget.selector.isAssetSlug = true →
        planned.key ≠ TargetKey.fromKind target.kind) :
    Returns IsUnsupported (fun pushed => TableOf pushed.2.targets pushed.2.targetIndexes ∧
      pushed.2.chainId = state.chainId ∧
      pushed.2.targets.length ≤ state.targets.length + 1 ∧
      ∀ planned ∈ pushed.2.targets, planned ∈ state.targets ∨
        planned.firstTarget = target ∧ planned.key = TargetKey.fromKind target.kind)
      (pushPlannedTarget networkSlug state target) := by
  cases hindex : state.targetIndexes (TargetKey.fromKind target.kind) with
  | none =>
    have hpush : pushPlannedTarget networkSlug state target = .ok (state.targets.length,
        { state with
          targets := state.targets ++ [⟨bigwigTarget target.kind, target⟩]
          targetIndexes := Function.update state.targetIndexes (TargetKey.fromKind target.kind)
            (some state.targets.length) }) := by
      rw [pushPlannedTarget, hindex]
      rfl
    obtain ⟨htable', -, -, hchain, -⟩ := pushPlannedTarget_ok hpush htable
    rw [hpush]
    refine ⟨htable', hchain, by simp, ?_⟩
    intro planned hplanned
    rcases List.mem_append.mp hplanned with hplanned | hplanned
    · exact .inl hplanned
    · rw [List.mem_singleton] at hplanned
      subst hplanned
      exact .inr ⟨rfl, fromBigwig_bigwigTarget _⟩
  | some index =>
    obtain ⟨existing, hexisting, hkey⟩ := Option.map_eq_some_iff.mp ((htable _ _).mp hindex)
    have hmem := List.mem_of_getElem? hexisting
    -- an asset slug never meets the balance of another one
    have hboth : (existing.firstTarget.selector.isAssetSlug && target.selector.isAssetSlug) =
        false := by
      rw [Bool.and_eq_false_iff, or_iff_not_imp_right]
      intro htarget
      rw [Bool.not_eq_false] at htarget
      by_contra hasset
      exact hnew htarget existing hmem (by simpa using hasset) hkey
    have hpush : pushPlannedTarget networkSlug state target = .ok (index, state) := by
      rw [pushPlannedTarget, hindex]
      simp [hexisting, hboth, expect, bind, Except.bind, pure, Except.pure]
    rw [hpush]
    exact ⟨htable, rfl, Nat.le_succ _, fun planned hplanned => .inl hplanned⟩

lemma agreeOnChainId_returns {chainId : Option ℤ} {targetChainId : ℤ}
    (hchain : ∀ id, chainId = some id → HasChainId registry networkSlug id)
    (htarget : HasChainId registry networkSlug targetChainId) :
    Returns IsUnsupported (· = some targetChainId)
      (agreeOnChainId networkSlug chainId targetChainId) := by
  cases chainId with
  | none => exact rfl
  | some id =>
    obtain rfl := (hchain id rfl).unique htarget
    rw [agreeOnChainId, if_neg (by simp)]
    exact rfl

/-- A supported selector keeps the loops safe, where an asset slug is new. -/
lemma planSupported_returns {chainId : ℤ} {slugs' : List String}
    (hstate : Safe registry networkSlug slugs selectorsDone state)
    (hchain : HasChainId registry networkSlug chainId) (hslugs : slugs ⊆ slugs')
    {target : ResolvedBalanceTarget}
    (hnew : target.selector.isAssetSlug = true → ∀ planned ∈ state.targets,
      planned.firstTarget.selector.isAssetSlug = true →
        planned.key ≠ TargetKey.fromKind target.kind)
    (htarget : target.selector.isAssetSlug = true → ∃ slug ∈ slugs', ∃ balance,
      resolveAsset registry networkSlug slug = .resolved balance ∧ target.kind = balance.kind) :
    Returns IsUnsupported (Safe registry networkSlug slugs' (selectorsDone + 1))
      (do
        let agreed ← agreeOnChainId networkSlug state.chainId chainId
        planSupported networkSlug { state with chainId := agreed } target) := by
  refine (agreeOnChainId_returns hstate.chain hchain).bind ?_
  rintro agreed rfl
  unfold planSupported
  refine Returns.bind (pushPlannedTarget_returns ?_ ?_) ?_
  · exact hstate.table
  · exact hnew
  rintro ⟨index, pushed⟩ ⟨htable, hid, hfew, hplanned⟩
  refine ⟨htable, ?_, hfew.trans (Nat.succ_le_succ hstate.few), ?_⟩
  · rintro id hpushed
    simp only at hid hpushed
    rw [hid, Option.some.injEq] at hpushed
    exact hpushed ▸ hchain
  · intro planned hmem hasset
    rcases hplanned planned hmem with hmem | ⟨hfirst, hkey⟩
    · obtain ⟨slug, hslug, hrest⟩ := hstate.first planned hmem hasset
      exact ⟨slug, hslugs hslug, hrest⟩
    · rw [hfirst] at hasset
      obtain ⟨slug, hslug, balance, hresolved, hkind⟩ := htarget hasset
      exact ⟨slug, hslug, balance, hresolved, by rw [hkey, hkind]⟩

variable (h : BuiltFrom catalog registry) (hnetwork : toAsciiLowercase networkSlug = networkSlug)

include h hnetwork

lemma planAsset_returns {assetSlug : String} (hslugs : ∀ slug ∈ slugs, toAsciiLowercase slug = slug)
    (hasset : toAsciiLowercase assetSlug = assetSlug) (hnew : assetSlug ∉ slugs)
    (hstate : Safe registry networkSlug slugs selectorsDone state) :
    Returns IsUnsupported (Safe registry networkSlug (slugs ++ [assetSlug]) (selectorsDone + 1))
      (planAsset networkSlug state (assetSlug, resolveAsset registry networkSlug assetSlug)) := by
  have hskip (skipped : TokenPlan) : Safe registry networkSlug (slugs ++ [assetSlug])
      (selectorsDone + 1) { state with tokenPlans := state.tokenPlans ++ [skipped] } := by
    refine ⟨hstate.table, hstate.chain, hstate.few.trans (Nat.le_succ _), ?_⟩
    intro planned hplanned hselector
    obtain ⟨slug, hslug, hrest⟩ := hstate.first planned hplanned hselector
    exact ⟨slug, List.mem_append_left _ hslug, hrest⟩
  cases hres : resolveAsset registry networkSlug assetSlug with
  | unsupportedNetwork network asset => exact .network network
  | unsupportedAsset network asset => exact .asset network asset
  | unsupportedPair network asset =>
    obtain ⟨rfl, rfl⟩ := resolveAsset_skipped (.inl hres)
    rw [planAsset, if_neg (by simp)]
    exact hskip _
  | unsupportedTokenStandard network asset =>
    obtain ⟨rfl, rfl⟩ := resolveAsset_skipped (.inr hres)
    rw [planAsset, if_neg (by simp)]
    exact hskip _
  | resolved target =>
    have hto := resolveAsset_resolvedTo h hnetwork hasset hres
    rw [planAsset, if_neg (by simp [hto.network, hto.asset])]
    refine planSupported_returns hstate hto.chain (List.subset_append_left _ _) ?_ ?_
    · intro _ planned hplanned hselector hkey
      obtain ⟨slug, hslug, other, hother, hotherKey⟩ := hstate.first planned hplanned hselector
      have hsame := resolveAsset_key_inj h hnetwork (hslugs slug hslug) hasset hother hres
        (hotherKey.symm.trans hkey)
      exact hnew (hsame ▸ hslug)
    · intro _
      exact ⟨assetSlug, by simp, target, hres, rfl⟩

lemma planContract_returns (hindexed : Indexed registry) {network : BalanceNetworkResolution}
    {contractAddress : String}
    (hevm : resolveEvmNetwork registry networkSlug = some network)
    (hstate : Safe registry networkSlug slugs selectorsDone state) :
    Returns IsUnsupported (Safe registry networkSlug slugs (selectorsDone + 1))
      (planContract networkSlug state
        (contractAddress, resolveErc20Contract registry network contractAddress)) := by
  obtain ⟨hslug, hchain⟩ := resolveEvmNetwork_resolvedTo h hnetwork hevm
  cases hres : resolveErc20Contract registry network contractAddress with
  | resolved target =>
    obtain ⟨htargetSlug, htargetChain⟩ := resolveErc20Contract_resolvedTo hres
    have hkind : target.kind.isErc20 = true := by
      obtain ⟨asset, hkind⟩ := resolveErc20Contract_resolved hindexed hres
      rw [hkind]
      rfl
    rw [planContract, if_neg (by simp [htargetSlug, hslug, hkind])]
    rw [htargetChain]
    exact planSupported_returns hstate hchain (List.Subset.refl _) (by rintro ⟨⟩) (by rintro ⟨⟩)
  | unknown unknownSlug chainId address =>
    obtain ⟨rfl, rfl, rfl⟩ := resolveErc20Contract_unknown hres
    rw [planContract, if_neg (by simp [hslug])]
    exact planSupported_returns hstate hchain (List.Subset.refl _) (by rintro ⟨⟩) (by rintro ⟨⟩)

/-! ### A group -/

variable {request : GetBalancesCommand} {group : GroupedAccounts}

lemma foldlM_planAsset_returns (hassets : ∀ slug ∈ slugs, toAsciiLowercase slug = slug)
    (hdistinct : slugs.Nodup) (hstate : Safe registry networkSlug [] 0 state) :
    Returns IsUnsupported (Safe registry networkSlug slugs slugs.length)
      ((slugs.zip (resolveNetwork registry networkSlug slugs)).foldlM (planAsset networkSlug)
        state) := by
  rw [resolveNetwork_eq, ← List.map_prod_left_eq_zip, List.foldlM_map]
  refine returns_foldlM (fun done => Safe registry networkSlug done done.length) ?_ hstate
  intro done slug rest hslugs s hs
  rw [hslugs] at hassets hdistinct
  rw [List.length_append]
  refine planAsset_returns h hnetwork (fun other hother => ?_) ?_ ?_ hs
  · exact hassets other (List.mem_append_left _ hother)
  · exact hassets slug (by simp)
  · intro hmem
    exact List.disjoint_of_nodup_append hdistinct hmem List.mem_cons_self

lemma foldlM_planContract_returns (hindexed : Indexed registry)
    {network : BalanceNetworkResolution}
    (hevm : resolveEvmNetwork registry networkSlug = some network) {addresses : List String}
    (hstate : Safe registry networkSlug slugs selectorsDone state) :
    Returns IsUnsupported (Safe registry networkSlug slugs (selectorsDone + addresses.length))
      ((addresses.zip (resolveErc20Contracts registry network addresses)).foldlM
        (planContract networkSlug) state) := by
  rw [resolveErc20Contracts, ← List.map_prod_left_eq_zip, List.foldlM_map]
  refine returns_foldlM (fun done => Safe registry networkSlug slugs (selectorsDone + done.length))
    ?_ hstate
  intro done address rest _ s hs
  rw [List.length_append, ← Nat.add_assoc]
  exact planContract_returns h hnetwork hindexed hevm hs

lemma planNetworkGroup_returns {network : Option BalanceNetworkResolution}
    {contracts : List ContractBalanceTargetResolution} (hslug : networkSlug = group.networkSlug)
    (hassets : ∀ slug ∈ request.tokens.assetSlugs, toAsciiLowercase slug = slug)
    (haccounts : group.accounts.length ≤ BIGWIG_MAX_ACCOUNTS)
    (hcount : contracts.length = request.tokens.contractAddresses.length)
    (hchain : ∀ chainId, network.map (·.chainId) = some chainId →
      HasChainId registry networkSlug chainId)
    (hloop : ∀ state, Safe registry networkSlug request.tokens.assetSlugs
        request.tokens.assetSlugs.length state →
      Returns IsUnsupported (Safe registry networkSlug request.tokens.assetSlugs request.tokens.len)
        ((request.tokens.contractAddresses.zip contracts).foldlM (planContract networkSlug)
          state)) :
    Returns IsUnsupported (fun plan => plan.targets.length ≤ BIGWIG_MAX_TARGETS ∧
        ∀ chainId, plan.chainId = some chainId → HasChainId registry networkSlug chainId)
      (planNetworkGroup group request.asOf request.tokens network
        (resolveNetwork registry networkSlug request.tokens.assetSlugs) contracts) := by
  subst hslug
  have hstart : Safe registry group.networkSlug [] 0
      ⟨network.map (·.chainId), [], fun _ => none, []⟩ :=
    ⟨by simp [TableOf], hchain, le_rfl, by simp⟩
  unfold planNetworkGroup
  rw [if_neg (by simp [resolveNetwork_eq, hcount])]
  refine (foldlM_planAsset_returns h hnetwork hassets request.assetsDistinct hstart).bind ?_
  intro state₁ hstate₁
  refine (hloop state₁ hstate₁).bind ?_
  intro state₂ hstate₂
  have htargets : state₂.targets.length ≤ BIGWIG_MAX_TARGETS :=
    hstate₂.few.trans request.tokensSize
  have hitems : group.accounts.length * state₂.targets.length ≤ BIGWIG_MAX_ITEMS :=
    Nat.mul_le_mul haccounts htargets
  rw [if_neg (by omega)]
  exact ⟨htargets, hstate₂.chain⟩

lemma planGroup_returns (hindexed : Indexed registry) (hslug : networkSlug = group.networkSlug)
    (hassets : ∀ slug ∈ request.tokens.assetSlugs, toAsciiLowercase slug = slug)
    (haccounts : group.accounts.length ≤ BIGWIG_MAX_ACCOUNTS) :
    Returns IsUnsupported (fun plan => plan.targets.length ≤ BIGWIG_MAX_TARGETS ∧
        ∀ chainId, plan.chainId = some chainId → HasChainId registry networkSlug chainId)
      (planGroup registry request group) := by
  subst hslug
  unfold planGroup
  by_cases hempty : request.tokens.contractAddresses = []
  · simp only [hempty, List.isEmpty_nil, if_true]
    refine planNetworkGroup_returns h hnetwork rfl hassets haccounts (by simp [hempty]) (by simp) ?_
    intro state hstate
    rw [hempty, List.zip_nil_left, TokenSelector.len, hempty]
    exact hstate
  · rw [if_neg (by simpa using hempty)]
    cases hevm : resolveEvmNetwork registry group.networkSlug with
    | none => exact .network group.networkSlug
    | some network =>
      refine planNetworkGroup_returns h hnetwork rfl hassets haccounts
        (by simp [resolveErc20Contracts]) ?_ ?_
      · rintro chainId ⟨⟩
        exact (resolveEvmNetwork_resolvedTo h hnetwork hevm).2
      · intro state hstate
        exact foldlM_planContract_returns h hnetwork hindexed hevm hstate

end

/-! ### The groups -/

lemma joinGroup_perm (entry : GroupAccount) (groups : List GroupedAccounts) :
    ((joinGroup entry groups).flatMap (·.accounts)).Perm
      (groups.flatMap (·.accounts) ++ [entry]) := by
  induction groups with
  | nil => simp [joinGroup]
  | cons group groups ih =>
    rw [joinGroup]
    split
    · simp only [List.flatMap_cons, List.append_assoc]
      exact List.Perm.append_left _ List.perm_append_comm
    · simp only [List.flatMap_cons, List.append_assoc]
      exact List.Perm.append_left _ ih

/-- **The groups partition the accounts.** -/
theorem groupAccounts_perm (accounts : List OnchainAccount) :
    (((groupAccounts accounts).flatMap (·.accounts)).map fun entry =>
      (entry.account, entry.originalIndex)).Perm accounts.zipIdx := by
  unfold groupAccounts
  generalize accounts.zipIdx = entries
  induction entries using List.reverseRecOn with
  | nil => exact .refl _
  | append_singleton entries entry ih =>
    rw [List.foldl_append]
    refine ((joinGroup_perm _ _).map _).trans ?_
    rw [List.map_append]
    exact ih.append_right _

lemma groupAccounts_nonempty (accounts : List OnchainAccount) :
    ∀ group ∈ groupAccounts accounts, group.accounts ≠ [] := by
  unfold groupAccounts
  generalize accounts.zipIdx = entries
  induction entries using List.reverseRecOn with
  | nil => simp
  | append_singleton entries entry ih =>
    rw [List.foldl_append]
    intro group hgroup
    rcases mem_joinGroup hgroup with hgroup | ⟨before, hbefore, -⟩
    · exact ih group hgroup
    · simp [hbefore]

/-! ### The request -/

/-- A call that the balance service takes: within its limits, nothing in it twice, and about a
network with a chain id. -/
structure Legal (registry : CanonicalRegistry) (plan : NetworkGroupPlan) : Prop where
  accounts : 1 ≤ (bigwigRequest plan).accounts.length ∧
    (bigwigRequest plan).accounts.length ≤ BIGWIG_MAX_ACCOUNTS
  tokens : 1 ≤ (bigwigRequest plan).tokens.length ∧
    (bigwigRequest plan).tokens.length ≤ BIGWIG_MAX_TARGETS
  accountsDistinct : ((bigwigRequest plan).accounts.map toAsciiLowercase).Nodup
  tokensDistinct : (bigwigRequest plan).tokens.Nodup
  chainId : ∃ chainId, plan.chainId = some chainId ∧
    HasChainId registry plan.networkSlug chainId

section

variable {accounts : List OnchainAccount} {group : GroupedAccounts}

lemma length_group_le (hgroup : group ∈ groupAccounts accounts) :
    group.accounts.length ≤ accounts.length := by
  have hsublist := ((groupAccounts_grouped accounts).sublist group hgroup).length_le
  simpa using hsublist

/-- The accounts of a group differ in their addresses, as they are of one network. -/
lemma nodup_group_addresses (hdistinct : (accounts.map identity).Nodup)
    (hgroup : group ∈ groupAccounts accounts) :
    (group.accounts.map fun entry => toAsciiLowercase entry.account.address).Nodup := by
  have hgrouped := groupAccounts_grouped accounts
  have hsublist : (group.accounts.map fun entry => entry.account).Sublist accounts := by
    have hsublist := (hgrouped.sublist group hgroup).map Prod.fst
    rwa [List.zipIdx_map_fst, List.map_map] at hsublist
  have hnodup := hdistinct.sublist (hsublist.map identity)
  rw [List.map_map] at hnodup
  refine (List.nodup_map_iff_inj_on (List.Nodup.of_map _ hnodup)).mpr ?_
  intro entry hentry other hother heq
  refine List.inj_on_of_nodup_map hnodup hentry hother ?_
  exact Prod.ext ((hgrouped.slug group hgroup entry hentry).trans
    (hgrouped.slug group hgroup other hother).symm) heq

end

/-- **Planning does not go wrong**: a request in lower case is planned, or refused for a network
or an asset that the catalog does not support. The plans partition the accounts by network, and
every call with a target is legal. -/
theorem planGroups_safe {catalog : Catalog} {registry : CanonicalRegistry}
    (hregistry : fromCatalog catalog = .ok registry) (request : GetBalancesCommand)
    (hnetworks : ∀ account ∈ request.accounts,
      toAsciiLowercase account.networkSlug = account.networkSlug)
    (hassets : ∀ slug ∈ request.tokens.assetSlugs, toAsciiLowercase slug = slug) :
    (∀ error, planGroups registry request = .error error → IsUnsupported error) ∧
      ∀ plans, planGroups registry request = .ok plans →
        ((plans.flatMap (·.accounts)).map fun entry =>
          (entry.account, entry.originalIndex)).Perm request.accounts.zipIdx ∧
        (plans.map (·.networkSlug)).Nodup ∧
        (∀ plan ∈ plans, ∀ entry ∈ plan.accounts,
          entry.account.networkSlug = plan.networkSlug) ∧
        ∀ plan ∈ plans, plan.targets ≠ [] → Legal registry plan := by
  have h := fromCatalog_builtFrom hregistry
  have hindexed := fromCatalog_indexed hregistry
  have hgrouped := groupAccounts_grouped request.accounts
  have hlower : ∀ group ∈ groupAccounts request.accounts,
      toAsciiLowercase group.networkSlug = group.networkSlug := by
    intro group hgroup
    obtain ⟨entry, hentry⟩ :=
      List.exists_mem_of_ne_nil _ (groupAccounts_nonempty request.accounts group hgroup)
    rw [← hgrouped.slug group hgroup entry hentry]
    refine hnetworks entry.account ?_
    have hmem := (hgrouped.sublist group hgroup).subset (List.mem_map_of_mem hentry)
    exact (List.mem_zipIdx hmem).2.2 ▸ List.getElem_mem _
  have hgroup (group : GroupedAccounts) (hmem : group ∈ groupAccounts request.accounts) :=
    planGroup_returns h (hlower group hmem) hindexed rfl hassets
      ((length_group_le hmem).trans request.accountsSize)
  refine ⟨(returns_iff.mp (returns_mapM hgroup)).1, fun plans hplans => ?_⟩
  have hof := planGroups_planOf hindexed hplans
  have hslugs : plans.map (·.networkSlug) =
      (groupAccounts request.accounts).map (·.networkSlug) := by
    rw [← List.forall₂_eq_eq_eq, List.forall₂_map_left_iff, List.forall₂_map_right_iff]
    exact hof.flip.imp fun plan group hplan => hplan.networkSlug
  have haccounts : plans.map (·.accounts) =
      (groupAccounts request.accounts).map (·.accounts) := by
    rw [← List.forall₂_eq_eq_eq, List.forall₂_map_left_iff, List.forall₂_map_right_iff]
    exact hof.flip.imp fun plan group hplan => hplan.accounts
  refine ⟨?_, hslugs ▸ hgrouped.distinct, ?_, ?_⟩
  · rw [List.flatMap_def, haccounts, ← List.flatMap_def]
    exact groupAccounts_perm request.accounts
  · intro plan hplan entry hentry
    obtain ⟨group, hmem, hplanOf⟩ := exists_of_forall₂ hof.flip hplan
    rw [hplanOf.accounts] at hentry
    rw [hplanOf.networkSlug]
    exact hgrouped.slug group hmem entry hentry
  · intro plan hplan htargets
    obtain ⟨group, hmem, hok⟩ := mem_of_mapM hplans hplan
    have hplanOf := planGroup_planOf hindexed hok
    obtain ⟨hfew, hchain⟩ := (returns_iff.mp (hgroup group hmem)).2 plan hok
    obtain ⟨chainId, hchainId, -⟩ := hplanOf.chain htargets
    refine ⟨?_, ?_, ?_, ?_, chainId, hchainId, ?_⟩
    · rw [bigwigRequest, List.length_map, hplanOf.accounts]
      exact ⟨List.length_pos_iff.mpr (groupAccounts_nonempty _ group hmem),
        (length_group_le hmem).trans request.accountsSize⟩
    · rw [bigwigRequest, List.length_map]
      exact ⟨List.length_pos_iff.mpr htargets, hfew⟩
    · rw [bigwigRequest, List.map_map, hplanOf.accounts]
      exact nodup_group_addresses request.accountsDistinct hmem
    · refine List.Nodup.of_map TargetKey.fromBigwig ?_
      rw [bigwigRequest, List.map_map]
      exact hplanOf.targets
    · rw [hplanOf.networkSlug]
      exact hchain chainId hchainId

/-- A request that names one token twice, by its slug and by its contract. -/
def tokenRequest : GetBalancesCommand :=
  value (tryNew .latest [⟨"eth-mainnet", "0x1111111111111111111111111111111111111111", none⟩] "USD"
    ⟨["usd-coin"], ["0xA0b86991c6218b36c1d19d4a2e9eb0ce3606eb48"]⟩) (by decide +kernel)

lemma tokenRequest_planned : (planGroups tokenRegistry tokenRequest).toOption.map
    (fun plans => plans.map (·.targets.length)) = some [1] := by
  decide +kernel

theorem planGroups_safe_token :
    ∃ plans, planGroups tokenRegistry tokenRequest = .ok plans ∧
      plans.map (·.targets.length) = [1] ∧ ∀ plan ∈ plans, plan.targets ≠ [] →
        Legal tokenRegistry plan := by
  have hsafe := planGroups_safe (eq_ok_value _ tokenCatalog_accepted) tokenRequest
    (by decide +kernel) (by decide +kernel)
  cases hplanned : planGroups tokenRegistry tokenRequest with
  | error e =>
    have hlengths := tokenRequest_planned
    rw [hplanned] at hlengths
    cases hlengths
  | ok plans =>
    have hlengths := tokenRequest_planned
    rw [hplanned] at hlengths
    obtain ⟨-, -, -, hlegal⟩ := hsafe.2 plans hplanned
    exact ⟨plans, rfl, Option.some.inj hlengths, hlegal⟩

end MotherApi.PlanSafety
