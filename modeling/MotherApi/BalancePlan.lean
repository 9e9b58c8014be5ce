import MotherApi.BalanceTargets

/-!
How a balance request is cut into calls.

The accounts are grouped by network. For each group every token selector is given a target,
and selectors with the same on-chain balance behind them share one: the calls carry each
balance once, and the token plans say where a selector finds its own.
-/

namespace MotherApi.BalancePlan

open MotherApi.Lib.Fallible MotherApi.Strings MotherApi.Registry MotherApi.BalanceCommand
open MotherApi.BalanceTargets

def BIGWIG_MAX_ACCOUNTS : ℕ := 50
def BIGWIG_MAX_TARGETS : ℕ := 20
def BIGWIG_MAX_ITEMS : ℕ := 1000

inductive BalancePlanIssue
  | resolutionCountMismatch
  | unexpectedResolutionNetwork
  | inconsistentChainId
  | targetCollision
  | conflictingTargetMetadata
  deriving DecidableEq

inductive BalanceSnapshotServiceError
  | unsupportedNetwork (networkSlug : String)
  | unsupportedAsset (networkSlug assetSlug : String)
  | requestTooLarge (networkSlug : String)
  | invalidPlan (networkSlug : String) (issue : BalancePlanIssue)
  | executionTaskFailed
  deriving DecidableEq

/-- A planning step can also panic, on an index out of range. -/
abbrev Plan := Except (Halt BalanceSnapshotServiceError)

/-- A target as it is sent and as it comes back. -/
inductive BigwigTarget
  | native
  | erc20 (contractAddress : String)
  deriving DecidableEq

inductive TargetKey
  | native
  | erc20 (contractAddress : String)
  deriving DecidableEq

def TargetKey.fromKind : BalanceTargetKind → TargetKey
  | .native => .native
  | .erc20 contractAddress => .erc20 (toAsciiLowercase contractAddress)

def TargetKey.fromBigwig : BigwigTarget → TargetKey
  | .native => .native
  | .erc20 contractAddress => .erc20 (toAsciiLowercase contractAddress)

def bigwigTarget : BalanceTargetKind → BigwigTarget
  | .native => .native
  | .erc20 contractAddress => .erc20 contractAddress

@[simp] lemma fromBigwig_bigwigTarget (kind : BalanceTargetKind) :
    TargetKey.fromBigwig (bigwigTarget kind) = TargetKey.fromKind kind := by
  cases kind <;> rfl

structure GroupAccount where
  originalIndex : ℕ
  account : OnchainAccount
  deriving DecidableEq

structure GroupedAccounts where
  networkSlug : String
  accounts : List GroupAccount
  deriving DecidableEq

inductive TokenPlan
  | supported (targetIndex : ℕ) (target : ResolvedBalanceTarget)
  | skipped (networkSlug assetSlug : String)
  deriving DecidableEq

structure PlannedTarget where
  wireTarget : BigwigTarget
  firstTarget : ResolvedBalanceTarget
  deriving DecidableEq

def PlannedTarget.key (planned : PlannedTarget) : TargetKey :=
  TargetKey.fromBigwig planned.wireTarget

structure NetworkGroupPlan where
  networkSlug : String
  asOf : AsOf
  chainId : Option ℤ
  accounts : List GroupAccount
  tokenPlans : List TokenPlan
  targets : List PlannedTarget
  deriving DecidableEq

/-! ### Groups -/

/-- The account joins the group of its network, which is opened if there is none. The source
keeps the positions of the groups in a table by network. -/
def joinGroup (entry : GroupAccount) : List GroupedAccounts → List GroupedAccounts
  | [] => [⟨entry.account.networkSlug, [entry]⟩]
  | group :: groups =>
    if group.networkSlug = entry.account.networkSlug then
      { group with accounts := group.accounts ++ [entry] } :: groups
    else group :: joinGroup entry groups

def groupAccounts (accounts : List OnchainAccount) : List GroupedAccounts :=
  accounts.zipIdx.foldl (fun groups (account, originalIndex) =>
    joinGroup ⟨originalIndex, account⟩ groups) []

/-! ### One group -/

/-- The variables of the two loops. -/
structure Planning where
  chainId : Option ℤ
  targets : List PlannedTarget
  targetIndexes : TargetKey → Option ℕ
  tokenPlans : List TokenPlan

def invalidPlan {α : Type} (networkSlug : String) (issue : BalancePlanIssue) : Plan α :=
  fail (.invalidPlan networkSlug issue)

/-- The index of the target for this balance, and the state with it. -/
def pushPlannedTarget (networkSlug : String) (state : Planning) (target : ResolvedBalanceTarget) :
    Plan (ℕ × Planning) :=
  let key := TargetKey.fromKind target.kind
  match state.targetIndexes key with
  | some existingIndex => do
    let existing := (← expect state.targets[existingIndex]?).firstTarget
    let bothAssets := existing.selector.isAssetSlug && target.selector.isAssetSlug
    if bothAssets ∧ existing.assetSlug ≠ target.assetSlug then
      invalidPlan networkSlug .targetCollision
    else if bothAssets ∧ existing ≠ target then
      invalidPlan networkSlug .conflictingTargetMetadata
    else return (existingIndex, state)
  | none =>
    let targetIndex := state.targets.length
    return (targetIndex,
      { state with
        targets := state.targets ++ [⟨bigwigTarget target.kind, target⟩]
        targetIndexes := Function.update state.targetIndexes key (some targetIndex) })

/-- The chain id of the group: every target has the same. -/
def agreeOnChainId (networkSlug : String) (chainId : Option ℤ) (targetChainId : ℤ) :
    Plan (Option ℤ) :=
  match chainId with
  | some expectedChainId =>
    if expectedChainId ≠ targetChainId then invalidPlan networkSlug .inconsistentChainId
    else return chainId
  | none => return some targetChainId

def planSupported (networkSlug : String) (state : Planning) (target : ResolvedBalanceTarget) :
    Plan Planning := do
  let (targetIndex, state) ← pushPlannedTarget networkSlug state target
  return { state with tokenPlans := state.tokenPlans ++ [.supported targetIndex target] }

/-- One round of the loop over the asset slugs. -/
def planAsset (groupSlug : String) (state : Planning) :
    String × BalanceTargetResolution → Plan Planning
  | (_, .unsupportedNetwork networkSlug _) => fail (.unsupportedNetwork networkSlug)
  | (_, .unsupportedAsset networkSlug assetSlug) => fail (.unsupportedAsset networkSlug assetSlug)
  | (requestedAssetSlug, .unsupportedPair networkSlug assetSlug)
  | (requestedAssetSlug, .unsupportedTokenStandard networkSlug assetSlug) =>
    if networkSlug ≠ groupSlug ∨ assetSlug ≠ requestedAssetSlug then
      invalidPlan groupSlug .unexpectedResolutionNetwork
    else return { state with tokenPlans := state.tokenPlans ++ [.skipped networkSlug assetSlug] }
  | (requestedAssetSlug, .resolved target) =>
    if target.networkSlug ≠ groupSlug ∨ target.assetSlug ≠ requestedAssetSlug then
      invalidPlan groupSlug .unexpectedResolutionNetwork
    else do
      let chainId ← agreeOnChainId groupSlug state.chainId target.chainId
      planSupported groupSlug { state with chainId }
        (resolvedTargetFromAssetSelector requestedAssetSlug target)

/-- One round of the loop over the contract addresses. -/
def planContract (groupSlug : String) (state : Planning) :
    String × ContractBalanceTargetResolution → Plan Planning
  | (requestedContractAddress, .resolved target) =>
    if target.networkSlug ≠ groupSlug ∨ ¬target.kind.isErc20 then
      invalidPlan groupSlug .unexpectedResolutionNetwork
    else do
      let chainId ← agreeOnChainId groupSlug state.chainId target.chainId
      planSupported groupSlug { state with chainId }
        (resolvedTargetFromContractSelector requestedContractAddress target)
  | (requestedContractAddress, .unknown networkSlug contractChainId contractAddress) =>
    if networkSlug ≠ groupSlug
        ∨ contractAddress ≠ toAsciiLowercase requestedContractAddress then
      invalidPlan groupSlug .unexpectedResolutionNetwork
    else do
      let chainId ← agreeOnChainId groupSlug state.chainId contractChainId
      planSupported groupSlug { state with chainId }
        (unresolvedContractTarget networkSlug contractChainId contractAddress)

def planNetworkGroup (group : GroupedAccounts) (asOf : AsOf) (requestedTokens : TokenSelector)
    (networkResolution : Option BalanceNetworkResolution)
    (assetResolutions : List BalanceTargetResolution)
    (contractResolutions : List ContractBalanceTargetResolution) : Plan NetworkGroupPlan :=
  if assetResolutions.length ≠ requestedTokens.assetSlugs.length
      ∨ contractResolutions.length ≠ requestedTokens.contractAddresses.length then
    invalidPlan group.networkSlug .resolutionCountMismatch
  else do
    let state : Planning := ⟨networkResolution.map (·.chainId), [], fun _ => none, []⟩
    let state ← (requestedTokens.assetSlugs.zip assetResolutions).foldlM
      (planAsset group.networkSlug) state
    let state ← (requestedTokens.contractAddresses.zip contractResolutions).foldlM
      (planContract group.networkSlug) state
    if group.accounts.length > BIGWIG_MAX_ACCOUNTS ∨ state.targets.length > BIGWIG_MAX_TARGETS
        ∨ group.accounts.length * state.targets.length > BIGWIG_MAX_ITEMS then
      fail (.requestTooLarge group.networkSlug)
    else return {
      networkSlug := group.networkSlug
      asOf := asOf
      chainId := state.chainId
      accounts := group.accounts
      tokenPlans := state.tokenPlans
      targets := state.targets }

/-! ### The request -/

section

variable (registry : CanonicalRegistry)

def planGroup (request : GetBalancesCommand) (group : GroupedAccounts) : Plan NetworkGroupPlan := do
  let assetResolutions := resolveNetwork registry group.networkSlug request.tokens.assetSlugs
  let networkResolution ←
    if request.tokens.contractAddresses.isEmpty then pure none
    else
      match resolveEvmNetwork registry group.networkSlug with
      | none => fail (.unsupportedNetwork group.networkSlug)
      | some network => pure (some network)
  let contractResolutions := match networkResolution with
    | some network => resolveErc20Contracts registry network request.tokens.contractAddresses
    | none => []
  planNetworkGroup group request.asOf request.tokens networkResolution assetResolutions
    contractResolutions

def planGroups (request : GetBalancesCommand) : Plan (List NetworkGroupPlan) :=
  (groupAccounts request.accounts).mapM (planGroup registry request)

end

/-! ### What the groups are -/

lemma mem_joinGroup {entry : GroupAccount} {groups : List GroupedAccounts}
    {group : GroupedAccounts} (h : group ∈ joinGroup entry groups) :
    group ∈ groups ∨ ∃ accounts, group.accounts = accounts ++ [entry] ∧
      group.networkSlug = entry.account.networkSlug ∧
      (accounts = [] ∨ ⟨group.networkSlug, accounts⟩ ∈ groups) := by
  induction groups with
  | nil =>
    simp only [joinGroup, List.mem_singleton] at h
    subst h
    exact Or.inr ⟨[], rfl, rfl, Or.inl rfl⟩
  | cons first groups ih =>
    rw [joinGroup] at h
    split at h
    · rename_i hslug
      rcases List.mem_cons.mp h with rfl | h
      · exact Or.inr ⟨first.accounts, rfl, hslug, Or.inr List.mem_cons_self⟩
      · exact Or.inl (List.mem_cons_of_mem _ h)
    · rcases List.mem_cons.mp h with rfl | h
      · exact Or.inl List.mem_cons_self
      · rcases ih h with h | ⟨accounts, haccounts, hslug, hmem⟩
        · exact Or.inl (List.mem_cons_of_mem _ h)
        · exact Or.inr ⟨accounts, haccounts, hslug, hmem.imp_right (List.mem_cons_of_mem _)⟩

lemma joinGroup_slugs (entry : GroupAccount) (groups : List GroupedAccounts) :
    (joinGroup entry groups).map (·.networkSlug) =
      if entry.account.networkSlug ∈ groups.map (·.networkSlug) then groups.map (·.networkSlug)
      else groups.map (·.networkSlug) ++ [entry.account.networkSlug] := by
  induction groups with
  | nil => simp [joinGroup]
  | cons first groups ih =>
    rw [joinGroup]
    by_cases hslug : first.networkSlug = entry.account.networkSlug
    · simp [hslug]
    · rw [if_neg hslug, List.map_cons, ih]
      by_cases hmem : entry.account.networkSlug ∈ groups.map (·.networkSlug)
      · rw [if_pos hmem, if_pos (by simpa using Or.inr hmem), List.map_cons]
      · rw [if_neg hmem, if_neg ?_, List.map_cons, List.cons_append]
        simpa [Ne.symm hslug] using hmem

/-- The groups of the accounts met so far: each has its accounts in their order and all of one
network, and no two are of the same network. -/
structure Grouped (done : List (OnchainAccount × ℕ)) (groups : List GroupedAccounts) : Prop where
  sublist : ∀ group ∈ groups, (group.accounts.map fun entry =>
    (entry.account, entry.originalIndex)).Sublist done
  slug : ∀ group ∈ groups, ∀ entry ∈ group.accounts, entry.account.networkSlug = group.networkSlug
  distinct : (groups.map (·.networkSlug)).Nodup

lemma joinGroup_grouped {done : List (OnchainAccount × ℕ)} {groups : List GroupedAccounts}
    (h : Grouped done groups) (account : OnchainAccount) (index : ℕ) :
    Grouped (done ++ [(account, index)]) (joinGroup ⟨index, account⟩ groups) := by
  refine ⟨?_, ?_, ?_⟩
  · intro group hgroup
    rcases mem_joinGroup hgroup with hgroup | ⟨accounts, haccounts, -, hmem⟩
    · exact (h.sublist group hgroup).trans (List.sublist_append_left _ _)
    · rw [haccounts, List.map_append]
      refine List.Sublist.append ?_ (List.Sublist.refl _)
      rcases hmem with rfl | hmem
      · exact List.nil_sublist _
      · exact h.sublist _ hmem
  · intro group hgroup entry hentry
    rcases mem_joinGroup hgroup with hgroup | ⟨accounts, haccounts, hslug, hmem⟩
    · exact h.slug group hgroup entry hentry
    · rw [haccounts, List.mem_append, List.mem_singleton] at hentry
      rcases hentry with hentry | rfl
      · rcases hmem with rfl | hmem
        · cases hentry
        · exact h.slug _ hmem entry hentry
      · exact hslug.symm
  · rw [joinGroup_slugs]
    split
    · exact h.distinct
    · rename_i hnew
      rw [List.nodup_append_comm]
      exact List.nodup_cons.mpr ⟨hnew, h.distinct⟩

lemma groupAccounts_grouped (accounts : List OnchainAccount) :
    Grouped accounts.zipIdx (groupAccounts accounts) := by
  unfold groupAccounts
  generalize accounts.zipIdx = entries
  induction entries using List.reverseRecOn with
  | nil => exact ⟨by simp, by simp, by simp⟩
  | append_singleton entries entry ih =>
    rw [List.foldl_append]
    exact joinGroup_grouped ih entry.1 entry.2

/-! ### What a plan is -/

section

variable (registry : CanonicalRegistry)

/-- The plan of a selector: where to find the balance it stands for among the targets, or that
it stands for none. -/
def TokenPlan.IsFor (networkSlug : String) (targets : List PlannedTarget)
    (selector : BalanceTokenSelector) : TokenPlan → Prop
  | .supported targetIndex target =>
    targetOf registry networkSlug selector = some target ∧ target.networkSlug = networkSlug ∧
      (∀ assetSlug, selector = .assetSlug assetSlug → target.assetSlug = some assetSlug) ∧
      targets[targetIndex]?.map PlannedTarget.key = some (TargetKey.fromKind target.kind)
  | .skipped skippedNetwork assetSlug =>
    targetOf registry networkSlug selector = none ∧ skippedNetwork = networkSlug ∧
      selector = .assetSlug assetSlug

/-- The table has exactly the keys of the targets, each with its position. -/
def TableOf (targets : List PlannedTarget) (targetIndexes : TargetKey → Option ℕ) : Prop :=
  ∀ key index, targetIndexes key = some index ↔
    targets[index]?.map PlannedTarget.key = some key

/-- What the loops keep, of the selectors done and the chain id they started with. -/
structure Planned (networkSlug : String) (start : Option ℤ) (done : List BalanceTokenSelector)
    (state : Planning) : Prop where
  table : TableOf state.targets state.targetIndexes
  plans : List.Forall₂ (TokenPlan.IsFor registry networkSlug state.targets) done state.tokenPlans
  chain : state.targets ≠ [] → ∃ id, state.chainId = some id ∧ 0 < id
  noTarget : state.targets = [] → state.chainId = start

variable {registry}

lemma TokenPlan.IsFor.mono {networkSlug : String} {targets targets' : List PlannedTarget}
    (h : targets <+: targets') {selector : BalanceTokenSelector} {tokenPlan : TokenPlan}
    (hplan : tokenPlan.IsFor registry networkSlug targets selector) :
    tokenPlan.IsFor registry networkSlug targets' selector := by
  cases tokenPlan with
  | skipped => exact hplan
  | supported index target =>
    obtain ⟨htarget, hnetwork, hasset, hkey⟩ := hplan
    obtain ⟨planned, hplanned, hkey⟩ := Option.map_eq_some_iff.mp hkey
    refine ⟨htarget, hnetwork, hasset, Option.map_eq_some_iff.mpr ⟨planned, ?_, hkey⟩⟩
    obtain ⟨rest, rfl⟩ := h
    have hlt := (List.getElem?_eq_some_iff.mp hplanned).1
    rw [List.getElem?_append_left hlt, hplanned]

lemma tableOf_push {targets : List PlannedTarget} {targetIndexes : TargetKey → Option ℕ}
    (h : TableOf targets targetIndexes) (planned : PlannedTarget)
    (hnew : targetIndexes planned.key = none) :
    TableOf (targets ++ [planned])
      (Function.update targetIndexes planned.key (some targets.length)) := by
  intro key index
  rcases Nat.lt_trichotomy index targets.length with hlt | rfl | hgt
  · rw [List.getElem?_append_left hlt]
    by_cases hkey : key = planned.key
    · subst hkey
      have hnone : ¬targets[index]?.map PlannedTarget.key = some planned.key := by
        rw [← h, hnew]
        simp
      simp only [Function.update_self, Option.some.injEq, hnone, iff_false]
      omega
    · rw [Function.update_of_ne hkey, h]
  · by_cases hkey : key = planned.key
    · subst hkey
      simp
    · have hnone : ¬targetIndexes key = some targets.length := by
        rw [h]
        simp
      rw [Function.update_of_ne hkey]
      simp [hnone, Ne.symm hkey]
  · have hnone : (targets ++ [planned])[index]? = none := by
      rw [List.getElem?_eq_none_iff]
      simp
      omega
    rw [hnone]
    by_cases hkey : key = planned.key
    · subst hkey
      simp only [Function.update_self, Option.some.injEq, Option.map_none, reduceCtorEq, iff_false]
      omega
    · rw [Function.update_of_ne hkey, h, List.getElem?_eq_none (by omega)]

lemma pushPlannedTarget_ok {networkSlug : String} {state state' : Planning}
    {target : ResolvedBalanceTarget} {index : ℕ}
    (h : pushPlannedTarget networkSlug state target = .ok (index, state'))
    (htable : TableOf state.targets state.targetIndexes) :
    TableOf state'.targets state'.targetIndexes ∧ state.targets <+: state'.targets ∧
      state'.targets[index]?.map PlannedTarget.key = some (TargetKey.fromKind target.kind) ∧
      state'.chainId = state.chainId ∧ state'.tokenPlans = state.tokenPlans := by
  unfold pushPlannedTarget at h
  simp only at h
  split at h
  · rename_i existingIndex hexisting
    obtain ⟨existing, -, h⟩ := bind_eq_ok.mp h
    split at h
    · cases h
    · split at h
      · cases h
      · simp only [pure, Except.pure, Except.ok.injEq, Prod.mk.injEq] at h
        obtain ⟨rfl, rfl⟩ := h
        exact ⟨htable, List.prefix_refl _, (htable _ _).mp hexisting, rfl, rfl⟩
  · rename_i hnew
    simp only [pure, Except.pure, Except.ok.injEq, Prod.mk.injEq] at h
    obtain ⟨rfl, rfl⟩ := h
    have hkey : (PlannedTarget.mk (bigwigTarget target.kind) target).key =
        TargetKey.fromKind target.kind := fromBigwig_bigwigTarget _
    refine ⟨?_, List.prefix_append _ _, ?_, rfl, rfl⟩
    · rw [← hkey] at hnew ⊢
      exact tableOf_push htable _ hnew
    · simp [hkey]

lemma agreeOnChainId_ok {networkSlug : String} {chainId chainId' : Option ℤ} {targetChainId : ℤ}
    (h : agreeOnChainId networkSlug chainId targetChainId = .ok chainId') :
    chainId' = some targetChainId := by
  unfold agreeOnChainId at h
  split at h
  · split at h
    · cases h
    · rename_i heq
      cases h
      rw [not_not.mp heq]
  · cases h
    rfl

lemma planSupported_planned {networkSlug : String} {start : Option ℤ}
    {done : List BalanceTokenSelector} {state state' : Planning} {selector : BalanceTokenSelector}
    {target : ResolvedBalanceTarget} {id : ℤ}
    (h : planSupported networkSlug state target = .ok state')
    (htable : TableOf state.targets state.targetIndexes)
    (hplans : List.Forall₂ (TokenPlan.IsFor registry networkSlug state.targets) done
      state.tokenPlans)
    (htarget : targetOf registry networkSlug selector = some target)
    (hnetwork : target.networkSlug = networkSlug)
    (hasset : ∀ assetSlug, selector = .assetSlug assetSlug → target.assetSlug = some assetSlug)
    (hchain : state.chainId = some id) (hpos : 0 < id) :
    Planned registry networkSlug start (done ++ [selector]) state' := by
  obtain ⟨⟨index, pushed⟩, hpush, h⟩ := bind_eq_ok.mp h
  simp only [pure, Except.pure, Except.ok.injEq] at h
  subst h
  obtain ⟨htable', hprefix, hkey, hid, hsame⟩ := pushPlannedTarget_ok hpush htable
  refine ⟨htable', ?_, fun _ => ⟨id, hid.trans hchain, hpos⟩, fun hnone => ?_⟩
  swap
  · simp only at hnone
    simp [hnone] at hkey
  simp only [hsame]
  refine List.rel_append ?_ (.cons ⟨htarget, hnetwork, hasset, hkey⟩ .nil)
  exact hplans.imp fun _ _ hplan => hplan.mono hprefix

lemma planAsset_planned {networkSlug assetSlug : String} {start : Option ℤ}
    {done : List BalanceTokenSelector} {state state' : Planning}
    (hstate : Planned registry networkSlug start done state)
    (h : planAsset networkSlug state (assetSlug, resolveAsset registry networkSlug assetSlug) =
      .ok state') :
    Planned registry networkSlug start (done ++ [.assetSlug assetSlug]) state' := by
  have hskip : ∀ skippedNetwork skippedAsset,
      targetOf registry networkSlug (.assetSlug assetSlug) = none →
      ¬(skippedNetwork ≠ networkSlug ∨ skippedAsset ≠ assetSlug) →
      state' = { state with
        tokenPlans := state.tokenPlans ++ [.skipped skippedNetwork skippedAsset] } →
      Planned registry networkSlug start (done ++ [.assetSlug assetSlug]) state' := by
    rintro skippedNetwork skippedAsset htarget hsame rfl
    simp only [not_or, ne_eq, not_not] at hsame
    obtain ⟨rfl, rfl⟩ := hsame
    exact ⟨hstate.table, List.rel_append hstate.plans (.cons ⟨htarget, rfl, rfl⟩ .nil),
      hstate.chain, hstate.noTarget⟩
  cases hres : resolveAsset registry networkSlug assetSlug with
  | unsupportedNetwork =>
    rw [hres] at h
    cases h
  | unsupportedAsset =>
    rw [hres] at h
    cases h
  | unsupportedPair skippedNetwork skippedAsset =>
    rw [hres, planAsset] at h
    split at h
    · cases h
    · cases h
      exact hskip _ _ (by simp [targetOf, hres]) ‹_› rfl
  | unsupportedTokenStandard skippedNetwork skippedAsset =>
    rw [hres, planAsset] at h
    split at h
    · cases h
    · cases h
      exact hskip _ _ (by simp [targetOf, hres]) ‹_› rfl
  | resolved target =>
    rw [hres, planAsset] at h
    split at h
    · cases h
    · rename_i hsame
      simp only [not_or, ne_eq, not_not] at hsame
      obtain ⟨chainId, hchain, h⟩ := bind_eq_ok.mp h
      refine planSupported_planned h hstate.table hstate.plans (by simp [targetOf, hres])
        hsame.1 ?_ (agreeOnChainId_ok hchain) (resolveAsset_resolved hres).1
      rintro slug ⟨⟩
      simpa [resolvedTargetFromAssetSelector, resolvedTarget] using hsame.2

lemma planContract_planned (hindexed : Indexed registry) {networkSlug contractAddress : String}
    {network : BalanceNetworkResolution}
    (hnetwork : resolveEvmNetwork registry networkSlug = some network)
    {start : Option ℤ} {done : List BalanceTokenSelector} {state state' : Planning}
    (hstate : Planned registry networkSlug start done state)
    (h : planContract networkSlug state
      (contractAddress, resolveErc20Contract registry network contractAddress) = .ok state') :
    Planned registry networkSlug start (done ++ [.contractAddress contractAddress]) state' := by
  cases hres : resolveErc20Contract registry network contractAddress with
  | resolved target =>
    rw [hres, planContract] at h
    split at h
    · cases h
    · rename_i hsame
      simp only [not_or, ne_eq, not_not] at hsame
      obtain ⟨chainId, hchain, h⟩ := bind_eq_ok.mp h
      exact planSupported_planned h hstate.table hstate.plans (by simp [targetOf, hnetwork, hres])
        hsame.1 (by simp) (agreeOnChainId_ok hchain) (resolveErc20Contract_resolved hindexed hres).1
  | unknown unknownNetwork chainId address =>
    rw [hres, planContract] at h
    split at h
    · cases h
    · rename_i hsame
      simp only [not_or, ne_eq, not_not] at hsame
      obtain ⟨agreed, hchain, h⟩ := bind_eq_ok.mp h
      have hpos : 0 < chainId := by
        rw [(resolveErc20Contract_unknown hres).2.1]
        exact resolveEvmNetwork_ok hnetwork
      exact planSupported_planned h hstate.table hstate.plans (by simp [targetOf, hnetwork, hres])
        hsame.1 (by simp) (agreeOnChainId_ok hchain) hpos

lemma foldlM_planAsset_planned {networkSlug : String} {assetSlugs : List String}
    {start : Option ℤ} {done : List BalanceTokenSelector} {state state' : Planning}
    (hstate : Planned registry networkSlug start done state)
    (h : (assetSlugs.zip (resolveNetwork registry networkSlug assetSlugs)).foldlM
      (planAsset networkSlug) state = .ok state') :
    Planned registry networkSlug start (done ++ assetSlugs.map .assetSlug) state' := by
  rw [resolveNetwork_eq, ← List.map_prod_left_eq_zip, List.foldlM_map] at h
  refine foldlM_inv (fun slugs state =>
    Planned registry networkSlug start (done ++ slugs.map .assetSlug) state) ?_
    (by simpa using hstate) h
  intro slugs slug _ s s' hs hstep
  rw [List.map_append, ← List.append_assoc]
  exact planAsset_planned hs hstep

lemma foldlM_planContract_planned (hindexed : Indexed registry) {networkSlug : String}
    {network : BalanceNetworkResolution}
    (hnetwork : resolveEvmNetwork registry networkSlug = some network)
    {contractAddresses : List String} {start : Option ℤ} {done : List BalanceTokenSelector}
    {state state' : Planning} (hstate : Planned registry networkSlug start done state)
    (h : (contractAddresses.zip (resolveErc20Contracts registry network contractAddresses)).foldlM
      (planContract networkSlug) state = .ok state') :
    Planned registry networkSlug start (done ++ contractAddresses.map .contractAddress) state' := by
  rw [resolveErc20Contracts, ← List.map_prod_left_eq_zip, List.foldlM_map] at h
  refine foldlM_inv (fun addresses state =>
    Planned registry networkSlug start (done ++ addresses.map .contractAddress) state) ?_
    (by simpa using hstate) h
  intro addresses address _ s s' hs hstep
  rw [List.map_append, ← List.append_assoc]
  exact planContract_planned hindexed hnetwork hs hstep

lemma TableOf.nodup {targets : List PlannedTarget} {targetIndexes : TargetKey → Option ℕ}
    (h : TableOf targets targetIndexes) : (targets.map PlannedTarget.key).Nodup := by
  rw [List.nodup_iff_getElem?_ne_getElem?]
  intro i j hij hj heq
  rw [List.getElem?_map, List.getElem?_map] at heq
  rw [List.length_map] at hj
  have hkey : targets[j]?.map PlannedTarget.key = some targets[j].key := by
    rw [List.getElem?_eq_getElem hj, Option.map_some]
  have hi := (h _ i).mpr (heq.trans hkey)
  rw [(h _ j).mpr hkey, Option.some.injEq] at hi
  omega

variable (registry) in
/-- The plan of one group of a request. -/
structure PlanOf (request : GetBalancesCommand) (group : GroupedAccounts)
    (plan : NetworkGroupPlan) : Prop where
  networkSlug : plan.networkSlug = group.networkSlug
  asOf : plan.asOf = request.asOf
  accounts : plan.accounts = group.accounts
  tokenPlans : List.Forall₂ (TokenPlan.IsFor registry plan.networkSlug plan.targets)
    (selectors request.tokens) plan.tokenPlans
  targets : (plan.targets.map PlannedTarget.key).Nodup
  chain : plan.targets ≠ [] → ∃ id, plan.chainId = some id ∧ 0 < id
  noTarget : plan.targets = [] → plan.chainId = none

lemma planNetworkGroup_planOf {request : GetBalancesCommand} {group : GroupedAccounts}
    {networkResolution : Option BalanceNetworkResolution}
    {contractResolutions : List ContractBalanceTargetResolution} {plan : NetworkGroupPlan}
    (hnone : request.tokens.contractAddresses = [] → networkResolution = none)
    (hloop : ∀ state state', Planned registry group.networkSlug
        (networkResolution.map (·.chainId)) (request.tokens.assetSlugs.map .assetSlug) state →
      (request.tokens.contractAddresses.zip contractResolutions).foldlM
        (planContract group.networkSlug) state = .ok state' →
      Planned registry group.networkSlug (networkResolution.map (·.chainId))
        (selectors request.tokens) state')
    (h : planNetworkGroup group request.asOf request.tokens networkResolution
      (resolveNetwork registry group.networkSlug request.tokens.assetSlugs) contractResolutions =
        .ok plan) :
    PlanOf registry request group plan := by
  unfold planNetworkGroup at h
  split at h
  · cases h
  obtain ⟨state₁, hassets, h⟩ := bind_eq_ok.mp h
  obtain ⟨state₂, hcontracts, h⟩ := bind_eq_ok.mp h
  split at h
  · cases h
  simp only [pure, Except.pure, Except.ok.injEq] at h
  subst h
  have hstart : Planned registry group.networkSlug (networkResolution.map (·.chainId)) []
      ⟨networkResolution.map (·.chainId), [], fun _ => none, []⟩ :=
    ⟨by simp [TableOf], .nil, by simp, fun _ => rfl⟩
  have hassets := foldlM_planAsset_planned hstart hassets
  rw [List.nil_append] at hassets
  have hdone := hloop state₁ state₂ hassets hcontracts
  refine ⟨rfl, rfl, rfl, hdone.plans, hdone.table.nodup, hdone.chain, fun hempty => ?_⟩
  have hcontracts : request.tokens.contractAddresses = [] := by
    rw [List.eq_nil_iff_forall_not_mem]
    intro address haddress
    have hmem : BalanceTokenSelector.contractAddress address ∈ selectors request.tokens :=
      List.mem_append_right _ (List.mem_map_of_mem haddress)
    obtain ⟨tokenPlan, -, hplan⟩ := exists_of_forall₂ hdone.plans hmem
    -- a contract is never skipped, and what is supported has a target
    cases tokenPlan with
    | skipped => cases hplan.2.2
    | supported index target =>
      simp only at hempty
      simp [TokenPlan.IsFor, hempty] at hplan
  rw [hdone.noTarget hempty, hnone hcontracts, Option.map_none]

lemma planGroup_planOf (hindexed : Indexed registry) {request : GetBalancesCommand}
    {group : GroupedAccounts} {plan : NetworkGroupPlan}
    (h : planGroup registry request group = .ok plan) : PlanOf registry request group plan := by
  unfold planGroup at h
  simp only at h
  split at h
  · rename_i hempty
    refine planNetworkGroup_planOf (fun _ => rfl) ?_ h
    intro state state' hstate hloop
    rw [List.isEmpty_iff] at hempty
    rw [hempty] at hloop
    cases hloop
    simpa [selectors, hempty] using hstate
  · split at h
    · cases h
    · rename_i hcontracts _ network hnetwork
      refine planNetworkGroup_planOf (fun hnil => absurd (by simp [hnil]) hcontracts) ?_ h
      intro state state' hstate hloop
      exact foldlM_planContract_planned hindexed hnetwork hstate hloop

/-- The plans of a request are those of its groups, in their order. -/
lemma planGroups_planOf (hindexed : Indexed registry) {request : GetBalancesCommand}
    {plans : List NetworkGroupPlan} (h : planGroups registry request = .ok plans) :
    List.Forall₂ (PlanOf registry request) (groupAccounts request.accounts) plans :=
  (mapM_eq_ok.mp h).imp fun _ _ => planGroup_planOf hindexed

end

end MotherApi.BalancePlan
