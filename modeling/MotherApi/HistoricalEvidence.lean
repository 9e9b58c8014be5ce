import MotherApi.BalanceResponse

/-!
Balances of a past point in time.

A request may name a block or a timestamp. The response says which point it was asked for, of
what kind its evidence is and which block that is. The validation takes this as it comes, and the
evidence goes out with the balances: whether the three agree with the request is left to the
reader of the answer.
-/

namespace MotherApi.HistoricalEvidence

open MotherApi.Lib.Fallible MotherApi.Strings MotherApi.Registry MotherApi.BalanceCommand
open MotherApi.BalanceTargets MotherApi.BalancePlan MotherApi.BalanceResponse MotherApi.Rfc3339

/-- The response, and the evidence attached to the accounts, are of the point in time that was
asked for. -/
def AtRequestedTime (asOf : AsOf) (response : BigwigResponse) (evidence : BalanceEvidence) : Prop :=
  match asOf with
  | .latest => True
  | .blockNumber n =>
    response.requestedAsOf = .blockNumber n ∧ response.resolvedEvidence.kind = .exactBlock ∧
      evidence.blockNumber = n
  | .timestamp t =>
    response.requestedAsOf = .timestamp t ∧ response.resolvedEvidence.kind = .resolvedTimestamp ∧
      notLater evidence.blockTimestamp t = true

/-- Every response that is accepted for the plan is of the requested point in time. -/
def ReportsRequestedTime (plan : NetworkGroupPlan) : Prop :=
  ∀ response validated, validateResponse plan response = .ok validated →
    AtRequestedTime plan.asOf response validated.evidence

/-! ### A response for any plan -/

def zeroItem (plan : NetworkGroupPlan) (index : ℕ) : BigwigEvidenceItem :=
  .resolved (plan.accounts[index / plan.targets.length]?.elim "" (·.account.address))
    (plan.targets[index % plan.targets.length]?.elim .native (·.wireTarget)) "0"

/-- Zero for every balance of the plan, with the head of the chain as evidence. -/
def zeroAtHead (plan : NetworkGroupPlan) : BigwigResponse where
  primitive := .evmBalances
  status := .complete
  network := ⟨plan.networkSlug, (plan.chainId.bind toU64).getD 0⟩
  requestedAsOf := .latest
  resolvedEvidence := ⟨.observedHead, "0", "0x0", "1970-01-01T00:00:00Z"⟩
  items := (List.range (plan.accounts.length * plan.targets.length)).map (zeroItem plan)

/-- No two accounts of the plan have one address. -/
def DistinctAccounts (plan : NetworkGroupPlan) : Prop :=
  (plan.accounts.map fun entry => toAsciiLowercase entry.account.address).Nodup

section

variable {plan : NetworkGroupPlan}

lemma zeroItem_inPlace {index : ℕ} (h : index < plan.accounts.length * plan.targets.length) :
    InPlace plan index (zeroItem plan index) := by
  have hpos : 0 < plan.targets.length := Nat.pos_of_mul_pos_left (Nat.zero_lt_of_lt h)
  have haccount : index / plan.targets.length < plan.accounts.length :=
    Nat.div_lt_of_lt_mul (by rwa [Nat.mul_comm])
  have htarget : index % plan.targets.length < plan.targets.length := Nat.mod_lt _ hpos
  refine ⟨_, _, List.getElem?_eq_getElem haccount, List.getElem?_eq_getElem htarget, ?_⟩
  simp [zeroItem, BigwigEvidenceItem.correlation, BigwigEvidenceItem.accountAddress,
    BigwigEvidenceItem.target, PlannedTarget.key, haccount, htarget]

/-- With distinct accounts and targets, what an item is about tells its position. -/
lemma InPlace.index_inj (haccounts : DistinctAccounts plan)
    (htargets : (plan.targets.map PlannedTarget.key).Nodup) {i j : ℕ}
    {item other : BigwigEvidenceItem}
    (hi : InPlace plan i item) (hj : InPlace plan j other)
    (heq : item.correlation = other.correlation) : i = j := by
  obtain ⟨account, planned, haccount, hplanned, hitem⟩ := hi
  obtain ⟨account', planned', haccount', hplanned', hother⟩ := hj
  rw [hitem, hother, Prod.mk.injEq] at heq
  have hdiv : i / plan.targets.length = j / plan.targets.length := by
    refine (List.getElem?_inj ?_ haccounts).mp ?_
    · rw [List.length_map]
      exact (List.getElem?_eq_some_iff.mp haccount).1
    · rw [List.getElem?_map, List.getElem?_map, haccount, haccount']
      simp [heq.1]
  have hmod : i % plan.targets.length = j % plan.targets.length := by
    refine (List.getElem?_inj ?_ htargets).mp ?_
    · rw [List.length_map]
      exact (List.getElem?_eq_some_iff.mp hplanned).1
    · rw [List.getElem?_map, List.getElem?_map, hplanned, hplanned']
      simp [heq.2]
  rw [← Nat.div_add_mod i plan.targets.length, hdiv, hmod, Nat.div_add_mod]

lemma zeroItems_failedCount (indexes : List ℕ) (state : Checking) :
    ((indexes.map (zeroItem plan)).foldl Checking.push state).failedCount = state.failedCount := by
  induction indexes generalizing state with
  | nil => rfl
  | cons index indexes ih =>
    rw [List.map_cons, List.foldl_cons, ih]
    simp [Checking.push, zeroItem, BigwigEvidenceItem.isResolved]

/-- The head of the chain is accepted for any plan of a chain, whatever time it is for. -/
lemma zeroAtHead_accepted (haccounts : DistinctAccounts plan)
    (htargets : (plan.targets.map PlannedTarget.key).Nodup) {id : ℤ}
    (hchain : plan.chainId = some id) (hpos : 0 < id) : Accepted plan (zeroAtHead plan) := by
  refine ⟨rfl, ?_, ?_, ?_, ?_, ?_⟩
  · simp [zeroAtHead, hchain, toU64, hpos.le]
  · simp [zeroAtHead]
  · intro i item hitem
    obtain ⟨index, hindex, rfl⟩ := Option.map_eq_some_iff.mp (List.getElem?_map ▸ hitem)
    obtain ⟨hlt, rfl⟩ := List.getElem?_eq_some_iff.mp hindex
    rw [List.length_range] at hlt
    rw [List.getElem_range]
    exact ⟨zeroItem_inPlace hlt, rfl⟩
  · rw [zeroAtHead, List.map_map]
    refine List.Nodup.map_on ?_ List.nodup_range
    intro i hi j hj heq
    exact InPlace.index_inj haccounts htargets (zeroItem_inPlace (List.mem_range.mp hi))
      (zeroItem_inPlace (List.mem_range.mp hj)) heq
  · rw [zeroAtHead, zeroItems_failedCount]
    rfl

end

/-! ### The accounts of a plan are distinct -/

lemma distinctAccounts_of_planOf {registry : CanonicalRegistry} {request : GetBalancesCommand}
    {group : GroupedAccounts} {plan : NetworkGroupPlan} (h : PlanOf registry request group plan)
    (hgroup : group ∈ groupAccounts request.accounts) : DistinctAccounts plan := by
  have hgrouped := groupAccounts_grouped request.accounts
  have hsub : (group.accounts.map (·.account)).Sublist request.accounts := by
    have := (hgrouped.sublist group hgroup).map Prod.fst
    rwa [List.map_map, List.zipIdx_map_fst] at this
  have hdistinct := (hsub.map identity).nodup request.accountsDistinct
  rw [List.map_map] at hdistinct
  unfold DistinctAccounts
  rw [h.accounts]
  -- within a group the network is the same, so the addresses tell the accounts apart
  refine List.Nodup.map_on ?_ hdistinct.of_map
  intro entry hentry other hother heq
  refine List.inj_on_of_nodup_map hdistinct hentry hother ?_
  simp only [Function.comp_apply, identity, heq, hgrouped.slug group hgroup entry hentry,
    hgrouped.slug group hgroup other hother]

/-- **The time of a response is not compared with the request**, so that it is the requested one
only if that is the latest, or nothing is asked. For every registry and every accepted command:
each response accepted for the plan of a group is of the requested point in time exactly if the
request is for the latest balances or the group has no target. A historical request with a
target accepts the head of the chain. -/
theorem reportsRequestedTime_iff {catalog : Catalog} {registry : CanonicalRegistry}
    (hregistry : fromCatalog catalog = .ok registry) {request : GetBalancesCommand}
    {plans : List NetworkGroupPlan} (hplans : planGroups registry request = .ok plans)
    {plan : NetworkGroupPlan} (hplan : plan ∈ plans) :
    ReportsRequestedTime plan ↔ request.asOf = .latest ∨ plan.targets = [] := by
  have hof := planGroups_planOf (fromCatalog_indexed hregistry) hplans
  obtain ⟨group, hgroup, hof⟩ := exists_of_forall₂ hof.flip hplan
  refine ⟨fun hreports => ?_, ?_⟩
  · by_contra hneither
    obtain ⟨hhistorical, htargets⟩ := not_or.mp hneither
    obtain ⟨id, hchain, hpos⟩ := hof.chain htargets
    have haccepted := zeroAtHead_accepted (distinctAccounts_of_planOf hof hgroup) hof.targets
      hchain hpos
    have htime := hreports _ _ (validateResponse_eq_ok.mpr ⟨haccepted, rfl⟩)
    rw [hof.asOf] at htime
    cases hasOf : request.asOf with
    | latest => exact hhistorical hasOf
    | blockNumber n =>
      rw [hasOf] at htime
      cases htime.2.1
    | timestamp t =>
      rw [hasOf] at htime
      cases htime.2.1
  · rintro (hlatest | hnone) response validated hvalid
    · rw [hof.asOf, hlatest]
      trivial
    · -- without a target there is no chain id, and every response is refused
      have hchain := (validateResponse_eq_ok.mp hvalid).1.chain
      rw [hof.noTarget hnone] at hchain
      cases hchain

/-! ### A block and the head -/

/-- A request for the balance of one account at block 19000000. -/
def blockRequest : GetBalancesCommand :=
  value (tryNew (.blockNumber "19000000")
    [⟨"eth-mainnet", "0x1111111111111111111111111111111111111111", none⟩] "USD"
    ⟨["ethereum"], []⟩) (by decide +kernel)

def blockTarget : ResolvedBalanceTarget where
  selector := .assetSlug "ethereum"
  networkSlug := "eth-mainnet"
  chainId := 1
  assetSlug := some "ethereum"
  symbol := some "ETH"
  name := some "Ethereum"
  decimals := some 18
  pricingAssetSlug := some "ethereum"
  kind := .native

def blockPlan : NetworkGroupPlan where
  networkSlug := "eth-mainnet"
  asOf := .blockNumber "19000000"
  chainId := some 1
  accounts := [⟨0, ⟨"eth-mainnet", "0x1111111111111111111111111111111111111111", none⟩⟩]
  tokenPlans := [.supported 0 blockTarget]
  targets := [⟨.native, blockTarget⟩]

def headResponse : BigwigResponse where
  primitive := .evmBalances
  status := .complete
  network := ⟨"eth-mainnet", 1⟩
  requestedAsOf := .latest
  resolvedEvidence := ⟨.observedHead, "25000000", "0xab", "2026-06-17T12:00:00Z"⟩
  items := [.resolved "0x1111111111111111111111111111111111111111" .native "5000"]

lemma planGroups_blockRequest : planGroups sampleRegistry blockRequest = .ok [blockPlan] := by
  decide +kernel

/-- The answer of the head of the chain is accepted for block 19000000. -/
theorem head_accepted_for_block :
    planGroups sampleRegistry blockRequest = .ok [blockPlan] ∧
      validateResponse blockPlan headResponse =
        .ok ⟨evidenceOf headResponse, [.resolved "5000"]⟩ ∧
      headResponse.resolvedEvidence.kind = .observedHead ∧
      ¬AtRequestedTime blockRequest.asOf headResponse (evidenceOf headResponse) := by
  refine ⟨planGroups_blockRequest, by decide +kernel, rfl, ?_⟩
  intro htime
  cases htime.2.1

theorem reportsRequestedTime_iff_block :
    ¬(blockRequest.asOf = .latest ∨ blockPlan.targets = []) ∧
      (ReportsRequestedTime blockPlan ↔ blockRequest.asOf = .latest ∨ blockPlan.targets = []) :=
  ⟨by decide, reportsRequestedTime_iff fromCatalog_sampleCatalog planGroups_blockRequest
    List.mem_cons_self⟩

end MotherApi.HistoricalEvidence
