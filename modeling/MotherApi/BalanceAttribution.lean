import MotherApi.BalanceService

/-!
Every balance stands under the account and the token it was reported for.

Between the response of a group and the result of a request, items are found by position:
accounts are regrouped and put back, targets are shared, and the groups end in any order. What
a response reports of an address and a target is a relation that mentions none of this, and the
items of a result are held against it.
-/

namespace MotherApi.BalanceAttribution

open MotherApi.Lib.Fallible MotherApi.Strings MotherApi.Registry MotherApi.BalanceCommand
open MotherApi.BalanceTargets MotherApi.BalancePlan MotherApi.BalanceResponse MotherApi.Decimal
open MotherApi.BalanceService

/-- The response has a resolved item for the address and the target, with this amount. -/
def Reports (response : BigwigResponse) (address : String) (key : TargetKey) (rawAmount : String) :
    Prop :=
  ∃ accountAddress target, .resolved accountAddress target rawAmount ∈ response.items ∧
    toAsciiLowercase accountAddress = toAsciiLowercase address ∧
    TargetKey.fromBigwig target = key

/-- The response that was received for a group, if one was. -/
def received (env : Environment) (plan : NetworkGroupPlan) : Option BigwigResponse :=
  if plan.targets.isEmpty then none
  else
    match env.client with
    | none => none
    | some client =>
      match client (bigwigRequest plan) with
      | .finished (.ok response) => some response
      | _ => none

/-- What remains of an item without its amount and its value. -/
def toRaw : BalanceItemOutcome → RawBalanceItemOutcome
  | .resolved target rawAmount _ _ => .resolved target rawAmount
  | .skipped networkSlug assetSlug => .skipped networkSlug assetSlug
  | .failed target code => .failed target code

section

variable (registry : CanonicalRegistry)

/-- The item is about the selector: about the target that the registry has for it on the
network, or, if there is none, it says that the asset is skipped there. -/
def BelongsTo (networkSlug : String) (selector : BalanceTokenSelector) :
    RawBalanceItemOutcome → Prop
  | .resolved target _ | .failed target _ =>
    targetOf registry networkSlug selector = some target ∧ target.selector = selector ∧
      target.networkSlug = networkSlug ∧
      (∀ assetSlug, selector = .assetSlug assetSlug → target.assetSlug = some assetSlug) ∧
      (∀ address, selector = .contractAddress address →
        TargetKey.fromKind target.kind = .erc20 address)
  | .skipped skippedNetwork assetSlug =>
    targetOf registry networkSlug selector = none ∧ skippedNetwork = networkSlug ∧
      selector = .assetSlug assetSlug

/-- The item belongs to the selector, and it is resolved exactly as the response of the group
reports it: only with a reported amount, and with it if the response passes validation. -/
structure Attributed (plan : NetworkGroupPlan) (response : Option BigwigResponse)
    (account : OnchainAccount) (selector : BalanceTokenSelector) (item : RawBalanceItemOutcome) :
    Prop where
  belongs : BelongsTo registry account.networkSlug selector item
  sound : ∀ target rawAmount, item = .resolved target rawAmount →
    isUnsignedInteger rawAmount.toList = true ∧ ∃ r, response = some r ∧
      Reports r account.address (TargetKey.fromKind target.kind) rawAmount
  complete : ∀ r validated, response = some r → validateResponse plan r = .ok validated →
    ∀ target rawAmount, targetOf registry account.networkSlug selector = some target →
      Reports r account.address (TargetKey.fromKind target.kind) rawAmount →
      item = .resolved target rawAmount

end

/-! ### One group -/

section

variable {registry : CanonicalRegistry} {request : GetBalancesCommand} {group : GroupedAccounts}
  {plan : NetworkGroupPlan}

/-- An accepted response reports an amount exactly at the position of the account and the
target. -/
lemma reports_iff {response : BigwigResponse} (haccepted : Accepted plan response)
    {accountIndex targetIndex : ℕ} {entry : GroupAccount} {planned : PlannedTarget}
    (hentry : plan.accounts[accountIndex]? = some entry)
    (hplanned : plan.targets[targetIndex]? = some planned) (rawAmount : String) :
    Reports response entry.account.address planned.key rawAmount ↔
      (response.items.map (·.outcome))[accountIndex * plan.targets.length + targetIndex]? =
        some (.resolved rawAmount) := by
  have htarget := (List.getElem?_eq_some_iff.mp hplanned).1
  have hpos : 0 < plan.targets.length := by omega
  have hdiv : (accountIndex * plan.targets.length + targetIndex) / plan.targets.length =
      accountIndex := by
    rw [Nat.mul_comm, Nat.mul_add_div hpos, Nat.div_eq_of_lt htarget, Nat.add_zero]
  have hmod : (accountIndex * plan.targets.length + targetIndex) % plan.targets.length =
      targetIndex := by
    rw [Nat.mul_comm, Nat.mul_add_mod, Nat.mod_eq_of_lt htarget]
  have hplace : ∀ item,
      response.items[accountIndex * plan.targets.length + targetIndex]? = some item →
      item.correlation = (toAsciiLowercase entry.account.address, planned.key) := by
    intro item hitem
    obtain ⟨⟨entry', planned', hentry', hplanned', hcorrelation⟩, -⟩ := haccepted.items _ item hitem
    rw [hdiv, hentry, Option.some.injEq] at hentry'
    rw [hmod, hplanned, Option.some.injEq] at hplanned'
    rw [hcorrelation, ← hentry', ← hplanned']
  have hlt : accountIndex * plan.targets.length + targetIndex < response.items.length := by
    have haccount := (List.getElem?_eq_some_iff.mp hentry).1
    rw [haccepted.size]
    calc accountIndex * plan.targets.length + targetIndex
        < accountIndex * plan.targets.length + plan.targets.length := by omega
      _ = (accountIndex + 1) * plan.targets.length := (Nat.succ_mul _ _).symm
      _ ≤ plan.accounts.length * plan.targets.length := Nat.mul_le_mul_right _ haccount
  have hitem := List.getElem?_eq_getElem hlt
  rw [List.getElem?_map, hitem, Option.map_some, Option.some.injEq]
  have hcorrelation := hplace _ hitem
  constructor
  · rintro ⟨accountAddress, target, hmem, haddress, hkey⟩
    -- no two items are about the same balance
    have heq := List.inj_on_of_nodup_map haccepted.distinct hmem (List.getElem_mem hlt) (by
      rw [hcorrelation, ← haddress, ← hkey]
      rfl)
    rw [← heq]
    rfl
  · intro houtcome
    generalize hget : response.items[accountIndex * plan.targets.length + targetIndex] = item
      at houtcome hcorrelation
    cases item with
    | failed => cases houtcome
    | unavailable => cases houtcome
    | resolved accountAddress target amount =>
      cases houtcome
      simp only [BigwigEvidenceItem.correlation, Prod.mk.injEq] at hcorrelation
      exact ⟨accountAddress, target, hget ▸ List.getElem_mem hlt, hcorrelation.1, hcorrelation.2⟩

lemma forall₂_attributed {response : Option BigwigResponse} {account : OnchainAccount}
    {items : List RawBalanceItemOutcome} (hplan : PlanOf registry request group plan)
    (R : TokenPlan → RawBalanceItemOutcome → Prop)
    (hitems : List.Forall₂ R plan.tokenPlans items)
    (hstep : ∀ selector ∈ selectors request.tokens, ∀ tokenPlan item,
      tokenPlan.IsFor registry plan.networkSlug plan.targets selector → R tokenPlan item →
      Attributed registry plan response account selector item) :
    List.Forall₂ (Attributed registry plan response account) (selectors request.tokens) items := by
  have hboth := hplan.tokenPlans
  generalize selectors request.tokens = all at hboth hstep ⊢
  generalize plan.tokenPlans = tokenPlans at hboth hitems
  induction hboth generalizing items with
  | nil =>
    cases hitems
    exact .nil
  | cons hfirst _ ih =>
    cases hitems with
    | cons hitem hitems =>
      refine .cons (hstep _ List.mem_cons_self _ _ hfirst hitem) (ih ?_ hitems)
      exact fun selector hselector => hstep selector (List.mem_cons_of_mem _ hselector)

/-- A result of a group is that of one of its accounts. -/
structure ResultOf (registry : CanonicalRegistry) (request : GetBalancesCommand)
    (plan : NetworkGroupPlan) (response : Option BigwigResponse)
    (result : ℕ × RawBalancesAccountResult) : Prop where
  account : ∃ entry ∈ plan.accounts, result.1 = entry.originalIndex ∧
    result.2.account = entry.account
  items : List.Forall₂ (Attributed registry plan response result.2.account)
    (selectors request.tokens) result.2.items

lemma accountResults_resultOf {response : Option BigwigResponse}
    {validated : Option ValidatedGroup} (hplan : PlanOf registry request group plan)
    (hitem : ∀ accountIndex entry, plan.accounts[accountIndex]? = some entry →
      ∀ selector ∈ selectors request.tokens, ∀ tokenPlan item,
        tokenPlan.IsFor registry plan.networkSlug plan.targets selector →
        rawItem plan validated accountIndex tokenPlan = .ok item →
        Attributed registry plan response entry.account selector item)
    {results : List (ℕ × RawBalancesAccountResult)}
    (h : accountResults plan validated = .ok results) {result : ℕ × RawBalancesAccountResult}
    (hresult : result ∈ results) : ResultOf registry request plan response result := by
  obtain ⟨⟨entry, accountIndex⟩, hmem, h⟩ := mem_of_mapM h hresult
  have hentry := List.mem_zipIdx_iff_getElem?.mp hmem
  obtain ⟨items, hitems, h⟩ := bind_eq_ok.mp h
  simp only [pure, Except.pure, Except.ok.injEq] at h
  subst h
  refine ⟨⟨entry, List.mem_of_getElem? hentry, rfl, rfl⟩, ?_⟩
  exact forall₂_attributed hplan _ (mapM_eq_ok.mp hitems) (hitem accountIndex entry hentry)

variable (hindexed : Indexed registry)
include hindexed

lemma belongsTo_of_isFor {networkSlug : String} {targets : List PlannedTarget}
    {selector : BalanceTokenSelector} (hselector : selector ∈ selectors request.tokens)
    {targetIndex : ℕ} {target : ResolvedBalanceTarget}
    (h : (TokenPlan.supported targetIndex target).IsFor registry networkSlug targets selector) :
    targetOf registry networkSlug selector = some target ∧ target.selector = selector ∧
      target.networkSlug = networkSlug ∧
      (∀ assetSlug, selector = .assetSlug assetSlug → target.assetSlug = some assetSlug) ∧
      (∀ address, selector = .contractAddress address →
        TargetKey.fromKind target.kind = .erc20 address) := by
  obtain ⟨htarget, hnetwork, hasset, -⟩ := h
  have hlower : ∀ address, selector = .contractAddress address →
      toAsciiLowercase address = address := by
    rintro address rfl
    refine request.contractsLowercase address ?_
    simpa [selectors] using hselector
  refine ⟨htarget, targetOf_selector htarget hlower, hnetwork, hasset, ?_⟩
  rintro address rfl
  rw [targetOf_contract hindexed htarget, TargetKey.fromKind, toAsciiLowercase_idem,
    hlower address rfl]

/-- A group that failed as a whole, or has nothing to ask, has no resolved item. -/
lemma failedItem_attributed {response : Option BigwigResponse}
    (hrefused : ∀ r validated, response = some r → validateResponse plan r ≠ .ok validated)
    {entry : GroupAccount} (hslug : entry.account.networkSlug = plan.networkSlug)
    {selector : BalanceTokenSelector} (hselector : selector ∈ selectors request.tokens)
    {tokenPlan : TokenPlan} (h : tokenPlan.IsFor registry plan.networkSlug plan.targets selector)
    (code : BalanceItemErrorCode) :
    Attributed registry plan response entry.account selector (failedItem code tokenPlan) := by
  refine ⟨?_, ?_, fun r validated hr hvalid => absurd hvalid (hrefused r validated hr)⟩
  · rw [hslug]
    cases tokenPlan with
    | skipped => exact h
    | supported => exact belongsTo_of_isFor hindexed hselector h
  · intro target rawAmount heq
    cases tokenPlan <;> cases heq

/-- An item of a group whose response was accepted. -/
lemma rawItem_attributed {response : BigwigResponse} {validated : ValidatedGroup}
    (hvalid : validateResponse plan response = .ok validated)
    {accountIndex : ℕ} {entry : GroupAccount} (hentry : plan.accounts[accountIndex]? = some entry)
    (hslug : entry.account.networkSlug = plan.networkSlug)
    {selector : BalanceTokenSelector} (hselector : selector ∈ selectors request.tokens)
    {tokenPlan : TokenPlan}
    (hplan : tokenPlan.IsFor registry plan.networkSlug plan.targets selector)
    {item : RawBalanceItemOutcome}
    (h : rawItem plan (some validated) accountIndex tokenPlan = .ok item) :
    Attributed registry plan (some response) entry.account selector item := by
  obtain ⟨haccepted, rfl⟩ := validateResponse_eq_ok.mp hvalid
  cases tokenPlan with
  | skipped skippedNetwork assetSlug =>
    cases h
    refine ⟨by rw [hslug]; exact hplan, fun _ _ heq => (by cases heq), ?_⟩
    intro r _ _ _ target rawAmount htarget
    rw [hslug, hplan.1] at htarget
    cases htarget
  | supported targetIndex target =>
    have hbelongs := belongsTo_of_isFor hindexed hselector hplan
    obtain ⟨htarget, -, -, hkey⟩ := hplan
    obtain ⟨planned, hplanned, hkey⟩ := Option.map_eq_some_iff.mp hkey
    have hreports := reports_iff haccepted hentry hplanned
    rw [hkey] at hreports
    unfold rawItem at h
    obtain ⟨_, hsome, h⟩ := bind_eq_ok.mp h
    cases hsome
    obtain ⟨outcome, houtcome, h⟩ := bind_eq_ok.mp h
    rw [expect_eq_ok] at houtcome
    simp only at houtcome
    have hcomplete : ∀ target' rawAmount,
        targetOf registry entry.account.networkSlug selector = some target' →
        Reports response entry.account.address (TargetKey.fromKind target'.kind) rawAmount →
        target' = target ∧ outcome = .resolved rawAmount := by
      intro target' rawAmount htarget' hreported
      rw [hslug, htarget, Option.some.injEq] at htarget'
      subst htarget'
      rw [hreports, houtcome, Option.some.injEq] at hreported
      exact ⟨rfl, hreported⟩
    cases outcome with
    | failed =>
      cases h
      refine ⟨by rw [hslug]; exact hbelongs, fun _ _ heq => (by cases heq), ?_⟩
      rintro r _ ⟨⟩ - target' rawAmount htarget' hreported
      cases (hcomplete target' rawAmount htarget' hreported).2
    | resolved amount =>
      cases h
      have hreported := (hreports amount).mpr houtcome
      refine ⟨by rw [hslug]; exact hbelongs, ?_, ?_⟩
      · rintro target' rawAmount ⟨⟩
        refine ⟨?_, response, rfl, hreported⟩
        obtain ⟨accountAddress, wire, hmem, -, -⟩ := hreported
        obtain ⟨i, hi⟩ := List.mem_iff_getElem?.mp hmem
        exact (haccepted.items i _ hi).2
      · rintro r _ ⟨⟩ - target' rawAmount htarget' hreported'
        obtain ⟨rfl, hsame⟩ := hcomplete target' rawAmount htarget' hreported'
        cases hsame
        rfl

lemma failedGroupResults_resultOf {response : Option BigwigResponse}
    (hplan : PlanOf registry request group plan)
    (hslugs : ∀ entry ∈ plan.accounts, entry.account.networkSlug = plan.networkSlug)
    (hrefused : ∀ r validated, response = some r → validateResponse plan r ≠ .ok validated)
    {code : BalanceItemErrorCode} {result : ℕ × RawBalancesAccountResult}
    (h : result ∈ failedGroupResults plan code) :
    ResultOf registry request plan response result := by
  obtain ⟨entry, hentry, rfl⟩ := List.mem_map.mp h
  refine ⟨⟨entry, hentry, rfl, rfl⟩, ?_⟩
  refine forall₂_attributed hplan (fun tokenPlan item => item = failedItem code tokenPlan)
    (List.forall₂_map_right_iff.mpr (List.forall₂_same.mpr fun _ _ => rfl)) ?_
  rintro selector hselector tokenPlan item hfor rfl
  exact failedItem_attributed hindexed hrefused (hslugs entry hentry) hselector hfor code

/-- The response of an execution. -/
def responseOf : GroupExecution → Option BigwigResponse
  | .called (.ok response) => some response
  | _ => none

lemma assembleGroupResults_resultOf (hplan : PlanOf registry request group plan)
    (hslugs : ∀ entry ∈ plan.accounts, entry.account.networkSlug = plan.networkSlug)
    {execution : GroupExecution} {results : List (ℕ × RawBalancesAccountResult)}
    (h : assembleGroupResults plan execution = .ok results)
    {result : ℕ × RawBalancesAccountResult} (hresult : result ∈ results) :
    ResultOf registry request plan (responseOf execution) result := by
  unfold assembleGroupResults at h
  split at h
  · refine accountResults_resultOf hplan ?_ h hresult
    intro accountIndex entry hentry selector hselector tokenPlan item hfor hraw
    cases tokenPlan with
    | supported =>
      unfold rawItem at hraw
      cases hraw
    | skipped =>
      cases hraw
      exact failedItem_attributed hindexed (fun _ _ hr => (by cases hr))
        (hslugs entry (List.mem_of_getElem? hentry)) hselector hfor .internalError
  · cases h
    exact failedGroupResults_resultOf hindexed hplan hslugs (fun _ _ hr => (by cases hr)) hresult
  · cases h
    exact failedGroupResults_resultOf hindexed hplan hslugs (fun _ _ hr => (by cases hr)) hresult
  · rename_i response
    split at h
    · rename_i validated hvalid
      refine accountResults_resultOf hplan ?_ h hresult
      intro accountIndex entry hentry selector hselector tokenPlan item hfor hraw
      exact rawItem_attributed hindexed hvalid hentry
        (hslugs entry (List.mem_of_getElem? hentry)) hselector hfor hraw
    · rename_i issue hvalid
      cases h
      refine failedGroupResults_resultOf hindexed hplan hslugs ?_ hresult
      rintro r validated ⟨⟩ hok
      rw [hvalid] at hok
      cases hok
    · cases h

end

/-! ### The groups -/

section

variable {env : Environment}

lemma initialExecution_response {plan : NetworkGroupPlan} {execution : GroupExecution}
    (h : initialExecution env plan = some execution) :
    responseOf execution = received env plan := by
  unfold initialExecution at h
  unfold received
  split at h
  · cases h
    simp [*, responseOf]
  · split at h
    · cases h
      simp [*, responseOf]
    · cases h

/-- Every execution has the response of its group. -/
def Answered (env : Environment) (plans : List NetworkGroupPlan)
    (executions : List (Option GroupExecution)) : Prop :=
  ∀ (groupIndex : ℕ) execution, executions[groupIndex]? = some (some execution) →
    ∃ plan, plans[groupIndex]? = some plan ∧ responseOf execution = received env plan

/-- The calls end in some order; each leaves its answer with its own group. -/
lemma joinNext_response {plans : List NetworkGroupPlan}
    {executions : List (Option GroupExecution)}
    (h : (env.completion (plans.zipIdx.filterMap (spawn env))).foldlM joinNext
      (plans.map (initialExecution env)) = .ok executions)
    {plan : NetworkGroupPlan} {execution : GroupExecution}
    (hmem : (plan, some execution) ∈ plans.zip executions) :
    responseOf execution = received env plan := by
  have hinv : Answered env plans executions := by
    refine foldlM_inv (fun _ executions => Answered env plans executions) ?_ ?_ h
    · rintro - ⟨callIndex, joined⟩ hcall before after hbefore hjoin groupIndex execution hexecution
      cases joined with
      | failed => cases hjoin
      | finished response =>
        rcases (setAt_eq_ok hjoin).2 groupIndex _ hexecution with hold | ⟨rfl, hnew⟩
        · exact hbefore groupIndex execution hold
        · rw [(env.completion_perm _).mem_iff, List.mem_filterMap] at hcall
          obtain ⟨⟨plan, index⟩, hplan, hspawn⟩ := hcall
          rw [Option.some.injEq] at hnew
          subst hnew
          rw [spawn] at hspawn
          split at hspawn
          · cases hspawn
          · rename_i htargets
            obtain ⟨client, hclient, hcall⟩ := Option.map_eq_some_iff.mp hspawn
            simp only [Prod.mk.injEq] at hcall
            obtain ⟨rfl, hcall⟩ := hcall
            refine ⟨plan, List.mem_zipIdx_iff_getElem?.mp hplan, ?_⟩
            unfold received
            rw [if_neg htargets, hclient]
            simp only [hcall]
            cases response <;> rfl
    · intro groupIndex execution hexecution
      rw [List.getElem?_map] at hexecution
      obtain ⟨plan, hplan, hinitial⟩ := Option.map_eq_some_iff.mp hexecution
      exact ⟨plan, hplan, initialExecution_response hinitial⟩
  obtain ⟨groupIndex, hget⟩ := List.mem_iff_getElem?.mp hmem
  rw [List.getElem?_zip_eq_some] at hget
  obtain ⟨plan', hplan', hresponse⟩ := hinv groupIndex execution hget.2
  rw [hget.1, Option.some.injEq] at hplan'
  rw [hresponse, ← hplan']

/-- The result at a position of the request. -/
structure PlacedAt (registry : CanonicalRegistry) (env : Environment)
    (request : GetBalancesCommand) (plans : List NetworkGroupPlan) (index : ℕ)
    (result : RawBalancesAccountResult) : Prop where
  account : request.accounts[index]? = some result.account
  items : ∃ plan ∈ plans, plan.networkSlug = result.account.networkSlug ∧
    List.Forall₂ (Attributed registry plan (received env plan) result.account)
      (selectors request.tokens) result.items

/-- The results so far, each in its place. -/
def Placed (registry : CanonicalRegistry) (env : Environment) (request : GetBalancesCommand)
    (plans : List NetworkGroupPlan) (results : List (Option RawBalancesAccountResult)) : Prop :=
  results.length = request.accounts.length ∧
    ∀ (index : ℕ) result, results[index]? = some (some result) →
      PlacedAt registry env request plans index result

variable {registry : CanonicalRegistry} {request : GetBalancesCommand}
  {plans : List NetworkGroupPlan}

/-- A group puts the results of its accounts in the places of the accounts. -/
lemma placeGroup_placed (hindexed : Indexed registry)
    (hplans : planGroups registry request = .ok plans)
    {plan : NetworkGroupPlan} (hplan : plan ∈ plans) {execution : Option GroupExecution}
    (hresponse : ∀ e, execution = some e → responseOf e = received env plan)
    {before after : List (Option RawBalancesAccountResult)}
    (hbefore : Placed registry env request plans before)
    (h : placeGroup before (plan, execution) = .ok after) :
    Placed registry env request plans after := by
  obtain ⟨e, he, h⟩ := bind_eq_ok.mp h
  obtain ⟨groupResults, hassemble, h⟩ := bind_eq_ok.mp h
  have hresponse := hresponse e (expect_eq_ok.mp he)
  obtain ⟨group, hgroup, hof⟩ := exists_of_forall₂ (planGroups_planOf hindexed hplans).flip hplan
  have hgrouped := groupAccounts_grouped request.accounts
  have hslugs : ∀ entry ∈ plan.accounts, entry.account.networkSlug = plan.networkSlug := by
    rw [hof.accounts, hof.networkSlug]
    exact hgrouped.slug group hgroup
  refine foldlM_inv (fun _ results => Placed registry env request plans results) ?_ hbefore h
  rintro - ⟨accountIndex, result⟩ hresult results₁ results₂ ⟨hlength, hplaced⟩ hset
  obtain ⟨hlength', hget⟩ := setAt_eq_ok hset
  refine ⟨hlength'.trans hlength, fun index other hother => ?_⟩
  rcases hget index _ hother with hother | ⟨rfl, hsame⟩
  · exact hplaced index other hother
  · rw [Option.some.injEq] at hsame
    subst hsame
    have hresult := assembleGroupResults_resultOf hindexed hof hslugs hassemble hresult
    obtain ⟨entry, hentry, hindex, haccount⟩ := hresult.account
    simp only at hindex haccount
    rw [hof.accounts] at hentry
    have hat := List.mem_zipIdx_iff_getElem?.mp
      ((hgrouped.sublist group hgroup).subset (List.mem_map_of_mem hentry))
    refine ⟨by rw [hindex, haccount]; exact hat, plan, hplan, ?_, ?_⟩
    · rw [haccount, hof.networkSlug]
      exact (hgrouped.slug group hgroup entry hentry).symm
    · rw [← hresponse]
      exact hresult.items

lemma placeGroups_placed (hindexed : Indexed registry)
    (hplans : planGroups registry request = .ok plans)
    {executions : List (Option GroupExecution)}
    (hexecutions : ∀ plan execution, (plan, some execution) ∈ plans.zip executions →
      responseOf execution = received env plan)
    {results : List (Option RawBalancesAccountResult)}
    (h : (plans.zip executions).foldlM placeGroup
      (List.replicate request.accounts.length none) = .ok results) :
    Placed registry env request plans results := by
  refine foldlM_inv (fun _ results => Placed registry env request plans results) ?_ ?_ h
  · rintro - ⟨plan, execution⟩ hmem before after hbefore hplace
    refine placeGroup_placed hindexed hplans (List.of_mem_zip hmem).1 ?_ hbefore hplace
    rintro e rfl
    exact hexecutions plan e hmem
  · refine ⟨List.length_replicate, fun index result hget => ?_⟩
    rw [List.getElem?_replicate] at hget
    split at hget <;> cases hget

/-! ### The request -/

lemma enrichItem_toRaw {quotes : Quotes} {raw : RawBalanceItemOutcome} {item : BalanceItemOutcome}
    (h : enrichItem quotes raw = .ok item) : toRaw item = raw := by
  cases raw with
  | skipped =>
    cases h
    rfl
  | failed =>
    cases h
    rfl
  | resolved target rawAmount =>
    obtain ⟨amount, -, h⟩ := bind_eq_ok.mp h
    obtain ⟨quote, -, h⟩ := bind_eq_ok.mp h
    cases h
    rfl

lemma plans_inj (hindexed : Indexed registry) (hplans : planGroups registry request = .ok plans)
    {plan other : NetworkGroupPlan} (hplan : plan ∈ plans) (hother : other ∈ plans)
    (heq : plan.networkSlug = other.networkSlug) : plan = other := by
  have hof := planGroups_planOf hindexed hplans
  have hslugs : plans.map (·.networkSlug) =
      (groupAccounts request.accounts).map (·.networkSlug) := by
    rw [← List.forall₂_eq_eq_eq, List.forall₂_map_left_iff, List.forall₂_map_right_iff]
    exact hof.flip.imp fun _ _ hof => hof.networkSlug
  have hnodup : (plans.map (·.networkSlug)).Nodup := by
    rw [hslugs]
    exact (groupAccounts_grouped request.accounts).distinct
  exact List.inj_on_of_nodup_map hnodup hplan hother heq

/-- What is known of a resolved request, for the results that are built on it. -/
structure Resolution (registry : CanonicalRegistry) (env : Environment)
    (request : GetBalancesCommand) (plans : List NetworkGroupPlan) (result : GetBalancesResult) :
    Prop where
  asOf : result.asOf = request.asOf
  quoteCurrency : result.quoteCurrency = request.quoteCurrency
  requestedTokenCount : result.requestedTokenCount = request.tokens.len
  accounts : result.accounts.map (·.account) = request.accounts
  items : ∀ answer ∈ result.accounts, ∃ plan ∈ plans,
    plan.networkSlug = answer.account.networkSlug ∧
    List.Forall₂ (fun selector item =>
        Attributed registry plan (received env plan) answer.account selector (toRaw item))
      (selectors request.tokens) answer.items
  enriched : ∃ quotes, ∀ answer ∈ result.accounts, ∀ item ∈ answer.items,
    enrichItem quotes (toRaw item) = .ok item

lemma eq_map_some_of_expect {results : List (Option RawBalancesAccountResult)}
    {accounts : List RawBalancesAccountResult}
    (h : (results.mapM expect : Service _) = .ok accounts) : results = accounts.map some := by
  rw [← List.forall₂_eq_eq_eq, List.forall₂_map_right_iff]
  exact (mapM_eq_ok.mp h).imp fun _ _ => expect_eq_ok.mp

lemma enrichAccountResults_ok {accounts : List RawBalancesAccountResult} {quotes : Quotes}
    {enriched : List BalancesAccountResult}
    (h : enrichAccountResults accounts quotes = .ok enriched) :
    List.Forall₂ (fun raw answer => answer.account = raw.account ∧
      raw.evidence = answer.evidence ∧
      List.Forall₂ (fun item item' => enrichItem quotes item = .ok item') raw.items answer.items)
      accounts enriched := by
  refine (mapM_eq_ok.mp h).imp fun raw answer hanswer => ?_
  obtain ⟨items, hitems, hanswer⟩ := bind_eq_ok.mp hanswer
  simp only [pure, Except.pure, Except.ok.injEq] at hanswer
  subst hanswer
  exact ⟨rfl, rfl, mapM_eq_ok.mp hitems⟩

lemma resolve_ok (hindexed : Indexed registry) {result : GetBalancesResult}
    (h : resolve registry env request = .ok result) :
    ∃ plans, planGroups registry request = .ok plans ∧
      Resolution registry env request plans result := by
  obtain ⟨plans, hplans, h⟩ := bind_eq_ok.mp h
  obtain ⟨executions, hjoin, h⟩ := bind_eq_ok.mp h
  obtain ⟨results, hplace, h⟩ := bind_eq_ok.mp h
  obtain ⟨accounts, hexpect, h⟩ := bind_eq_ok.mp h
  obtain ⟨enriched, henrich, h⟩ := bind_eq_ok.mp h
  simp only [pure, Except.pure, Except.ok.injEq] at h
  subst h
  obtain ⟨hlength, hplaced⟩ := placeGroups_placed hindexed hplans
    (fun _ _ => joinNext_response hjoin) hplace
  rw [eq_map_some_of_expect hexpect] at hlength hplaced
  rw [List.length_map] at hlength
  have hplaced : ∀ (index : ℕ) raw, accounts[index]? = some raw →
      PlacedAt registry env request plans index raw := fun index raw hraw =>
    hplaced index raw (by rw [List.getElem?_map, hraw, Option.map_some])
  have henrich := enrichAccountResults_ok henrich
  refine ⟨plans, hplans, rfl, rfl, rfl, ?_, ?_, latestQuotes env request accounts, ?_⟩
  · have haccounts : accounts.map (·.account) = request.accounts := by
      refine List.ext_getElem (by rw [List.length_map, hlength]) fun index hindex _ => ?_
      rw [List.length_map] at hindex
      have hat := (hplaced index _ (List.getElem?_eq_getElem hindex)).account
      rw [List.getElem_map]
      exact (List.getElem?_eq_some_iff.mp hat).2.symm
    rw [← haccounts, ← List.forall₂_eq_eq_eq, List.forall₂_map_left_iff,
      List.forall₂_map_right_iff]
    exact henrich.flip.imp fun _ _ hanswer => hanswer.1
  · intro answer hanswer
    obtain ⟨raw, hraw, haccount, -, hitems⟩ := exists_of_forall₂ henrich.flip hanswer
    obtain ⟨index, hindex⟩ := List.mem_iff_getElem?.mp hraw
    obtain ⟨plan, hplan, hslug, hattributed⟩ := (hplaced index raw hindex).items
    rw [haccount]
    refine ⟨plan, hplan, hslug, ?_⟩
    have hsame : answer.items.map toRaw = raw.items := by
      rw [← List.forall₂_eq_eq_eq, List.forall₂_map_left_iff]
      exact hitems.flip.imp fun _ _ hitem => enrichItem_toRaw hitem
    rwa [← hsame, List.forall₂_map_right_iff] at hattributed
  · intro answer hanswer item hitem
    obtain ⟨raw, hraw, -, -, hitems⟩ := exists_of_forall₂ henrich.flip hanswer
    obtain ⟨rawItem, -, hrich⟩ := exists_of_forall₂ hitems.flip hitem
    rw [enrichItem_toRaw hrich]
    exact hrich

end

/-- **Balances are neither mis-attributed nor dropped nor invented.** For every registry, every
accepted command and every environment: if the request is resolved, the accounts are those of
the command in their order; the items of an account are those of the selectors, assets first,
then the contracts in lower case without repetitions; and with the response of the account's
own network group, an item is resolved only with a numeral that the response reports for its
address and its target, and if the response passes validation, with every one it reports. -/
theorem resolve_attributes {catalog : Catalog} {registry : CanonicalRegistry}
    (hregistry : fromCatalog catalog = .ok registry) {asOf : AsOf} {accounts : List OnchainAccount}
    {quoteCurrency : String} {tokens : TokenSelector} {command : GetBalancesCommand}
    (hcommand : tryNew asOf accounts quoteCurrency tokens = .ok command) (env : Environment)
    {result : GetBalancesResult} (h : resolve registry env command = .ok result) :
    result.accounts.map (·.account) = accounts ∧
      ∃ plans, planGroups registry command = .ok plans ∧
        ∀ answer ∈ result.accounts, answer.items.length = command.tokens.len ∧
          ∃ plan ∈ plans, plan.networkSlug = answer.account.networkSlug ∧
            (∀ other ∈ plans, other.networkSlug = answer.account.networkSlug → other = plan) ∧
            List.Forall₂ (fun selector item =>
                Attributed registry plan (received env plan) answer.account selector (toRaw item))
              (selectors ⟨tokens.assetSlugs,
                (tokens.contractAddresses.map toAsciiLowercase).eraseDups⟩) answer.items := by
  obtain ⟨-, haccounts, hassets, hcontracts, -⟩ := tryNew_ok hcommand
  obtain ⟨plans, hplans, hresolution⟩ := resolve_ok (fromCatalog_indexed hregistry) h
  refine ⟨hresolution.accounts.trans haccounts, plans, hplans, fun answer hanswer => ?_⟩
  obtain ⟨plan, hplan, hslug, hitems⟩ := hresolution.items answer hanswer
  refine ⟨?_, plan, hplan, hslug, ?_, ?_⟩
  · rw [← hitems.length_eq, length_selectors]
  · intro other hother heq
    exact plans_inj (fromCatalog_indexed hregistry) hplans hother hplan (heq.trans hslug.symm)
  · rw [← hassets, ← hcontracts]
    exact hitems

/-! ### A request -/

/-- Accounts of two networks, in turn. -/
def mixedAccounts : List OnchainAccount :=
  [⟨"base-mainnet", "0xAb11111111111111111111111111111111111111", some "till"⟩,
    ⟨"eth-mainnet", "0xAb11111111111111111111111111111111111111", some "treasury"⟩,
    ⟨"base-mainnet", "0xcc22222222222222222222222222222222222222", none⟩]

/-- Two assets, of which one is on one of the networks only, and a contract that is named twice. -/
def mixedTokens : TokenSelector := ⟨["ethereum", "usd-coin"], ["0xCd", "0xcd"]⟩

lemma mixedTokens_accepted :
    (tryNew .latest mixedAccounts "usd" mixedTokens).toOption.isSome = true := by
  decide +kernel

def mixedCommand : GetBalancesCommand := value _ mixedTokens_accepted

/-- The balance of the contract is not reported for the treasury. -/
def treasuryResponse : BigwigResponse where
  primitive := .evmBalances
  status := .partially
  network := ⟨"eth-mainnet", 1⟩
  requestedAsOf := .latest
  resolvedEvidence := ⟨.observedHead, "25000000", "0xab", "2026-06-17T12:00:00Z"⟩
  items := [
    .resolved "0xab11111111111111111111111111111111111111" .native "5000",
    .resolved "0xab11111111111111111111111111111111111111"
      (.erc20 "0xa0b86991c6218b36c1d19d4a2e9eb0ce3606eb48") "7250000",
    .failed "0xab11111111111111111111111111111111111111" (.erc20 "0xcd")]

def tillResponse : BigwigResponse where
  primitive := .evmBalances
  status := .complete
  network := ⟨"base-mainnet", 8453⟩
  requestedAsOf := .latest
  resolvedEvidence := ⟨.observedHead, "31000000", "0xcd", "2026-06-17T12:00:01Z"⟩
  items := [
    .resolved "0xab11111111111111111111111111111111111111" .native "1",
    .resolved "0xab11111111111111111111111111111111111111" (.erc20 "0xcd") "2",
    .resolved "0xcc22222222222222222222222222222222222222" .native "3",
    .resolved "0xcc22222222222222222222222222222222222222" (.erc20 "0xcd") "4"]

lemma mixed_perm (calls : List (ℕ × Joined)) : calls.reverse.Perm calls := calls.reverse_perm

/-- The call for the second group ends first. -/
def mixedEnvironment : Environment where
  client := some fun request =>
    if request.networkSlug = "eth-mainnet" then .finished (.ok treasuryResponse)
    else .finished (.ok tillResponse)
  completion := List.reverse
  completion_perm := BalanceAttribution.mixed_perm
  priceQuoteReader := some fun _ _ => .ok fun _ =>
    some (.available "2000.5" "USD" "2026-06-17T12:00:00Z")

/-- The numerals that are shown for an account. -/
def shownAmounts (answer : BalancesAccountResult) : List (Option String) :=
  answer.items.map fun item =>
    match item with
    | .resolved _ rawAmount _ _ => some rawAmount
    | _ => none

lemma mixedCommand_amounts :
    (resolve severalRegistry mixedEnvironment mixedCommand).toOption.map (fun result =>
      result.accounts.map shownAmounts) = some
        [[some "1", none, some "2"], [some "5000", some "7250000", none],
          [some "3", none, some "4"]] := by
  decide +kernel

lemma mixedCommand_resolved :
    (resolve severalRegistry mixedEnvironment mixedCommand).toOption.isSome = true := by
  obtain ⟨result, hresult, -⟩ := Option.map_eq_some_iff.mp mixedCommand_amounts
  rw [hresult]
  rfl

theorem resolve_attributes_mixed :
    (value _ mixedCommand_resolved).accounts.map shownAmounts =
        [[some "1", none, some "2"], [some "5000", some "7250000", none],
          [some "3", none, some "4"]] ∧
      (value _ mixedCommand_resolved).accounts.map (·.account) = mixedAccounts ∧
      ∃ plans, planGroups severalRegistry mixedCommand = .ok plans ∧
        ∀ answer ∈ (value _ mixedCommand_resolved).accounts, ∃ plan ∈ plans,
          plan.networkSlug = answer.account.networkSlug ∧
          List.Forall₂ (fun selector item => Attributed severalRegistry plan
              (received mixedEnvironment plan) answer.account selector (toRaw item))
            [.assetSlug "ethereum", .assetSlug "usd-coin", .contractAddress "0xcd"]
            answer.items := by
  have hresolved := eq_ok_value _ mixedCommand_resolved
  obtain ⟨haccounts, plans, hplans, hanswers⟩ := resolve_attributes fromCatalog_severalCatalog
    (eq_ok_value _ mixedTokens_accepted) mixedEnvironment hresolved
  refine ⟨?_, haccounts, plans, hplans, fun answer hanswer => ?_⟩
  · have hamounts := mixedCommand_amounts
    rw [hresolved] at hamounts
    exact Option.some.inj hamounts
  · obtain ⟨-, plan, hplan, hslug, -, hitems⟩ := hanswers answer hanswer
    have hselectors : selectors ⟨mixedTokens.assetSlugs,
        (mixedTokens.contractAddresses.map toAsciiLowercase).eraseDups⟩ =
        [.assetSlug "ethereum", .assetSlug "usd-coin", .contractAddress "0xcd"] := by
      decide +kernel
    exact ⟨plan, hplan, hslug, hselectors ▸ hitems⟩

end MotherApi.BalanceAttribution
