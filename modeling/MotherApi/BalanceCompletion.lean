import MotherApi.BalanceAttribution
import MotherApi.PlanSafety

/-!
A balance request that is planned is answered.

The calls of a request run at the same time, and the service takes their answers in the order in
which they end. What it makes of them is what it would make of them one group after the other;
none of its indexes and expectations fails, and only a task that is lost keeps the request from
being answered.
-/

namespace MotherApi.BalanceCompletion

open MotherApi.Lib.Fallible MotherApi.Strings MotherApi.Registry MotherApi.BalanceCommand
open MotherApi.BalanceTargets MotherApi.BalancePlan MotherApi.BalanceResponse MotherApi.Decimal
open MotherApi.BalanceService MotherApi.BalanceAttribution MotherApi.PlanSafety
open MotherApi.RegistryAnswers (fromCatalog_builtFrom)

/-! ### One group after the other -/

/-- What the call of a group comes to, whenever it ends. -/
def execution (env : Environment) (plan : NetworkGroupPlan) : Service GroupExecution :=
  if plan.targets.isEmpty then .ok .skippedOnly
  else
    match env.client with
    | none => .ok (.failed .balanceProviderUnavailable)
    | some client =>
      match client (bigwigRequest plan) with
      | .failed => fail .executionTaskFailed
      | .finished response => .ok (.called response)

/-- The service without concurrency: the groups are asked in their order. -/
def resolveInTurn (registry : CanonicalRegistry) (env : Environment)
    (request : GetBalancesCommand) : Service GetBalancesResult := do
  let plans ← planGroups registry request
  let executions ← plans.mapM (execution env)
  let results ← (plans.zip (executions.map some)).foldlM placeGroup
    (List.replicate request.accounts.length none)
  let accounts ← results.mapM expect
  let accounts' ← enrichAccountResults accounts (latestQuotes env request accounts)
  return {
    asOf := request.asOf
    quoteCurrency := request.quoteCurrency
    requestedTokenCount := request.tokens.len
    accounts := accounts' }

/-- The task of the group is lost before it ends. -/
def Lost (env : Environment) (plan : NetworkGroupPlan) : Prop :=
  plan.targets ≠ [] ∧ ∃ client ∈ env.client, client (bigwigRequest plan) = .failed

section

variable {env : Environment} {plan : NetworkGroupPlan} {plans : List NetworkGroupPlan}

lemma execution_of_lost (h : Lost env plan) : execution env plan = fail .executionTaskFailed := by
  obtain ⟨htargets, client, hclient, hfailed⟩ := h
  rw [Option.mem_def] at hclient
  unfold execution
  rw [if_neg (by simpa using htargets), hclient]
  simp only [hfailed]

lemma execution_of_not_lost (h : ¬Lost env plan) : ∃ e, execution env plan = .ok e := by
  unfold execution
  split
  · exact ⟨_, rfl⟩
  · rename_i htargets
    split
    · exact ⟨_, rfl⟩
    · rename_i client hclient
      split
      · rename_i hfailed
        exact absurd ⟨by simpa using htargets, client, hclient, hfailed⟩ h
      · exact ⟨_, rfl⟩

lemma mapM_execution_error {error : Halt BalanceSnapshotServiceError}
    (h : plans.mapM (execution env) = .error error) : error = .error .executionTaskFailed := by
  have hreturns : Returns (· = .error .executionTaskFailed) (List.Forall₂ (fun _ _ => True) plans)
      (plans.mapM (execution env)) := by
    refine returns_mapM fun plan _ => ?_
    by_cases hlost : Lost env plan
    · rw [execution_of_lost hlost]
      exact rfl
    · obtain ⟨e, he⟩ := execution_of_not_lost hlost
      rw [he]
      trivial
  rw [h] at hreturns
  exact hreturns

lemma initialExecution_of_spawn {groupIndex : ℕ} (h : spawn env (plan, groupIndex) = none) :
    ∃ e, execution env plan = .ok e ∧ initialExecution env plan = some e := by
  rw [spawn] at h
  unfold execution initialExecution
  split at h
  · rename_i htargets
    rw [if_pos htargets, if_pos htargets]
    exact ⟨_, rfl, rfl⟩
  · rename_i htargets
    rw [Option.map_eq_none_iff] at h
    rw [if_neg htargets, if_neg htargets, h]
    exact ⟨_, rfl, rfl⟩

/-- A call ends with what its group comes to. -/
lemma execution_of_spawn {groupIndex index : ℕ} {joined : Joined}
    (h : spawn env (plan, groupIndex) = some (index, joined)) :
    index = groupIndex ∧ (joined = .failed → Lost env plan) ∧
      ∀ response, joined = .finished response → execution env plan = .ok (.called response) := by
  rw [spawn] at h
  split at h
  · cases h
  · rename_i htargets
    obtain ⟨client, hclient, hcall⟩ := Option.map_eq_some_iff.mp h
    simp only [Prod.mk.injEq] at hcall
    obtain ⟨rfl, rfl⟩ := hcall
    refine ⟨rfl, fun hfailed => ⟨by simpa using htargets, client, hclient, hfailed⟩, ?_⟩
    intro response hresponse
    unfold execution
    rw [if_neg htargets, hclient]
    simp only [hresponse]

/-- The executions after some calls have ended: the groups of these and the groups without a call
are done. -/
structure Ended (env : Environment) (plans : List NetworkGroupPlan) (done : List (ℕ × Joined))
    (executions : List (Option GroupExecution)) : Prop where
  length : executions.length = plans.length
  executed : ∀ (groupIndex : ℕ) plan, plans[groupIndex]? = some plan →
    groupIndex ∈ done.map Prod.fst ∨ spawn env (plan, groupIndex) = none →
    ∃ e, execution env plan = .ok e ∧ executions[groupIndex]? = some (some e)

/-- The end of a loop over the calls that is not its last round: a task of the request is lost. -/
def LostTask (env : Environment) (plans : List NetworkGroupPlan)
    (error : Halt BalanceSnapshotServiceError) : Prop :=
  error = .error .executionTaskFailed ∧ ∃ plan ∈ plans, Lost env plan

lemma joinNext_ended {done : List (ℕ × Joined)} {call : ℕ × Joined}
    (hcall : call ∈ plans.zipIdx.filterMap (spawn env))
    {executions : List (Option GroupExecution)} (h : Ended env plans done executions) :
    Returns (LostTask env plans) (Ended env plans (done ++ [call])) (joinNext executions call) := by
  obtain ⟨⟨plan, index⟩, hplan, hspawn⟩ := List.mem_filterMap.mp hcall
  rw [List.mem_zipIdx_iff_getElem?] at hplan
  obtain ⟨groupIndex, joined⟩ := call
  obtain ⟨rfl, hfailed, hfinished⟩ := execution_of_spawn hspawn
  cases joined with
  | failed => exact ⟨rfl, plan, List.mem_of_getElem? hplan, hfailed rfl⟩
  | finished response =>
    have hlt : groupIndex < executions.length := by
      rw [h.length]
      exact (List.getElem?_eq_some_iff.mp hplan).1
    have hjoin : joinNext executions (groupIndex, .finished response) =
        .ok (executions.set groupIndex (some (.called response))) := if_pos hlt
    rw [hjoin]
    refine ⟨by rw [List.length_set, h.length], fun other plan' hplan' hdone => ?_⟩
    by_cases heq : groupIndex = other
    · subst heq
      rw [hplan, Option.some.injEq] at hplan'
      subst hplan'
      exact ⟨_, hfinished response rfl, List.getElem?_set_self hlt⟩
    · rw [List.getElem?_set_ne heq]
      refine h.executed other plan' hplan' (hdone.imp_left fun hmem => ?_)
      simpa [Ne.symm heq] using hmem

/-- The calls end in some order, and it makes no difference. -/
lemma joinAll : (env.completion (plans.zipIdx.filterMap (spawn env))).foldlM joinNext
      (plans.map (initialExecution env)) =
    (plans.mapM (execution env)).map fun executions => executions.map some := by
  have hreturns := @returns_foldlM _ _ _ (LostTask env plans) joinNext (Ended env plans)
    (env.completion (plans.zipIdx.filterMap (spawn env))) (fun done call rest hcalls executions h =>
      joinNext_ended (((env.completion_perm _).mem_iff).mp (by simp [hcalls])) h)
    (plans.map (initialExecution env)) ⟨List.length_map _, fun groupIndex plan hplan hdone => by
      obtain ⟨e, he, hinitial⟩ := initialExecution_of_spawn (hdone.resolve_left (by simp))
      exact ⟨e, he, by rw [List.getElem?_map, hplan, Option.map_some, hinitial]⟩⟩
  generalize hloop : (env.completion (plans.zipIdx.filterMap (spawn env))).foldlM joinNext
    (plans.map (initialExecution env)) = loop at hreturns
  cases loop with
  | error error =>
    obtain ⟨rfl, plan, hplan, hlost⟩ := hreturns
    cases hall : plans.mapM (execution env) with
    | ok executions =>
      obtain ⟨e, -, he⟩ := exists_of_mapM hall hplan
      rw [execution_of_lost hlost] at he
      cases he
    | error error =>
      rw [mapM_execution_error hall]
      rfl
  | ok executions =>
    have hended :
        Ended env plans (env.completion (plans.zipIdx.filterMap (spawn env))) executions :=
      hreturns
    have hexecuted : ∀ (groupIndex : ℕ) plan, plans[groupIndex]? = some plan →
        ∃ e, execution env plan = .ok e ∧ executions[groupIndex]? = some (some e) := by
      intro groupIndex plan hplan
      refine hended.executed groupIndex plan hplan ?_
      cases hspawn : spawn env (plan, groupIndex) with
      | none => exact Or.inr rfl
      | some call =>
        obtain ⟨hindex, -⟩ := execution_of_spawn hspawn
        refine Or.inl (List.mem_map.mpr ⟨call, ?_, hindex⟩)
        rw [(env.completion_perm _).mem_iff]
        exact List.mem_filterMap.mpr
          ⟨(plan, groupIndex), List.mem_zipIdx_iff_getElem?.mpr hplan, hspawn⟩
    obtain ⟨all, hall⟩ : ∃ all, plans.mapM (execution env) = .ok all :=
      exists_mapM_eq_ok fun plan hplan => by
        obtain ⟨groupIndex, hget⟩ := List.mem_iff_getElem?.mp hplan
        obtain ⟨e, he, -⟩ := hexecuted groupIndex plan hget
        exact ⟨e, he⟩
    rw [hall]
    refine congrArg Except.ok (List.ext_getElem? fun groupIndex => ?_)
    have hforall := mapM_eq_ok.mp hall
    cases hplan : plans[groupIndex]? with
    | none =>
      rw [List.getElem?_eq_none_iff] at hplan
      rw [List.getElem?_eq_none (by rw [hended.length]; exact hplan),
        List.getElem?_eq_none (by rw [List.length_map, ← hforall.length_eq]; exact hplan)]
    | some plan =>
      obtain ⟨e, he, hget⟩ := hexecuted groupIndex plan hplan
      obtain ⟨hlt, hplan⟩ := List.getElem?_eq_some_iff.mp hplan
      have hat := hforall.get hlt (by rw [← hforall.length_eq]; exact hlt)
      rw [List.get_eq_getElem, hplan, he, Except.ok.injEq, List.get_eq_getElem] at hat
      rw [hget, List.getElem?_map,
        List.getElem?_eq_getElem (by rw [← hforall.length_eq]; exact hlt), ← hat, Option.map_some]

end

/-- The service is what it would be without concurrency. -/
lemma resolve_eq_inTurn (registry : CanonicalRegistry) (env : Environment)
    (request : GetBalancesCommand) :
    resolve registry env request = resolveInTurn registry env request := by
  unfold resolve resolveInTurn
  refine bind_congr fun plans => ?_
  simp only [joinAll]
  cases plans.mapM (execution env) <;> rfl

/-! ### Every position is there -/

/-- The checks of a response index the plan only inside of it. -/
lemma validateResponse_ne_panic (plan : NetworkGroupPlan) (response : BigwigResponse) :
    validateResponse plan response ≠ .error .panic := by
  unfold validateResponse
  split
  · simp [fail]
  split
  · simp [fail]
  split
  · simp [fail]
  split
  · simp [fail]
  rename_i hsize
  have hloop : Returns (· ≠ .panic) (fun _ => True)
      (response.items.zipIdx.foldlM (checkItem plan) {}) := by
    refine returns_foldlM (fun _ _ => True) (fun done entry rest hentries state _ => ?_) trivial
    obtain ⟨item, itemIndex⟩ := entry
    have hmem : (item, itemIndex) ∈ response.items.zipIdx := by simp [hentries]
    have hlt := (List.getElem?_eq_some_iff.mp (List.mem_zipIdx_iff_getElem?.mp hmem)).1
    rw [not_not.mp hsize] at hlt
    have hpos : 0 < plan.targets.length := Nat.pos_of_ne_zero fun hzero => by simp [hzero] at hlt
    have haccount := List.getElem?_eq_getElem (Nat.div_lt_of_lt_mul (by rwa [Nat.mul_comm] at hlt))
    have htarget := List.getElem?_eq_getElem (Nat.mod_lt itemIndex hpos)
    unfold checkItem
    simp only [haccount, htarget, expect, bind_ok]
    split_ifs <;> simp [Returns, fail, pure, Except.pure]
  intro hpanic
  rcases bind_eq_error.mp hpanic with herror | ⟨state, -, herror⟩
  · rw [herror] at hloop
    exact hloop rfl
  · split at herror <;> cases herror

section

variable {registry : CanonicalRegistry} {request : GetBalancesCommand} {group : GroupedAccounts}
  {plan : NetworkGroupPlan}

lemma accountResults_runs {validated : Option ValidatedGroup}
    (hitems : ∀ accountIndex < plan.accounts.length, ∀ tokenPlan ∈ plan.tokenPlans,
      ∃ item, rawItem plan validated accountIndex tokenPlan = .ok item) :
    ∃ results, accountResults plan validated = .ok results ∧
      results.map Prod.fst = plan.accounts.map (·.originalIndex) := by
  obtain ⟨results, hresults, hforall⟩ : ∃ results, accountResults plan validated = .ok results ∧
      List.Forall₂ (fun entry result => result.1 = entry.1.originalIndex) plan.accounts.zipIdx
        results := by
    refine exists_mapM_forall₂ fun ⟨entry, accountIndex⟩ hmem => ?_
    have hlt := (List.getElem?_eq_some_iff.mp (List.mem_zipIdx_iff_getElem?.mp hmem)).1
    obtain ⟨items, hitems⟩ := exists_mapM_eq_ok (hitems accountIndex hlt)
    exact ⟨_, bind_eq_ok.mpr ⟨items, hitems, rfl⟩, rfl⟩
  refine ⟨results, hresults, ?_⟩
  have haccounts : plan.accounts.map (·.originalIndex) =
      plan.accounts.zipIdx.map fun entry => entry.1.originalIndex := by
    conv_lhs => rw [← List.zipIdx_map_fst 0 plan.accounts, List.map_map]
    rfl
  rw [haccounts, ← List.forall₂_eq_eq_eq, List.forall₂_map_left_iff, List.forall₂_map_right_iff]
  exact hforall.flip

lemma rawItem_of_no_targets (hplan : PlanOf registry request group plan)
    (htargets : plan.targets.isEmpty = true) {accountIndex : ℕ} {tokenPlan : TokenPlan}
    (hmem : tokenPlan ∈ plan.tokenPlans) :
    ∃ item, rawItem plan none accountIndex tokenPlan = .ok item := by
  obtain ⟨selector, -, hfor⟩ := exists_of_forall₂ hplan.tokenPlans.flip hmem
  cases tokenPlan with
  | skipped => exact ⟨_, rfl⟩
  | supported targetIndex target =>
    obtain ⟨-, -, -, hkey⟩ := hfor
    rw [List.isEmpty_iff.mp htargets] at hkey
    cases hkey

lemma rawItem_of_accepted (hplan : PlanOf registry request group plan) {response : BigwigResponse}
    (haccepted : Accepted plan response) {accountIndex : ℕ}
    (hindex : accountIndex < plan.accounts.length) {tokenPlan : TokenPlan}
    (hmem : tokenPlan ∈ plan.tokenPlans) :
    ∃ item, rawItem plan (some ⟨evidenceOf response, response.items.map (·.outcome)⟩) accountIndex
      tokenPlan = .ok item := by
  obtain ⟨selector, -, hfor⟩ := exists_of_forall₂ hplan.tokenPlans.flip hmem
  cases tokenPlan with
  | skipped => exact ⟨_, rfl⟩
  | supported targetIndex target =>
    obtain ⟨-, -, -, hkey⟩ := hfor
    obtain ⟨planned, hplanned, -⟩ := Option.map_eq_some_iff.mp hkey
    have htarget := (List.getElem?_eq_some_iff.mp hplanned).1
    have hlt : accountIndex * plan.targets.length + targetIndex <
        (response.items.map (·.outcome)).length := by
      rw [List.length_map, haccepted.size]
      calc accountIndex * plan.targets.length + targetIndex
          < accountIndex * plan.targets.length + plan.targets.length := by omega
        _ = (accountIndex + 1) * plan.targets.length := (Nat.succ_mul _ _).symm
        _ ≤ plan.accounts.length * plan.targets.length := Nat.mul_le_mul_right _ hindex
    unfold rawItem
    simp only [expect, bind_ok, List.getElem?_eq_getElem hlt]
    generalize (response.items.map (·.outcome))[accountIndex * plan.targets.length + targetIndex] =
      outcome
    cases outcome <;> exact ⟨_, rfl⟩

/-- Whatever came back for a group, there is a result for each of its accounts. -/
lemma assembleGroupResults_runs {env : Environment} (hplan : PlanOf registry request group plan)
    {e : GroupExecution} (he : execution env plan = .ok e) :
    ∃ results, assembleGroupResults plan e = .ok results ∧
      results.map Prod.fst = plan.accounts.map (·.originalIndex) := by
  have hfailed (code : BalanceItemErrorCode) : (failedGroupResults plan code).map Prod.fst =
      plan.accounts.map (·.originalIndex) := by
    rw [failedGroupResults, List.map_map]
    rfl
  cases e with
  | skippedOnly =>
    have htargets : plan.targets.isEmpty = true := by
      by_contra htargets
      unfold execution at he
      rw [if_neg htargets] at he
      split at he
      · cases he
      · split at he <;> cases he
    exact accountResults_runs fun _ _ _ hmem => rawItem_of_no_targets hplan htargets hmem
  | failed code => exact ⟨_, rfl, hfailed code⟩
  | called response =>
    cases response with
    | error error => exact ⟨_, rfl, hfailed _⟩
    | ok response =>
      unfold assembleGroupResults
      simp only
      cases hvalid : validateResponse plan response with
      | ok validated =>
        obtain ⟨haccepted, rfl⟩ := validateResponse_eq_ok.mp hvalid
        exact accountResults_runs fun _ hindex _ hmem =>
          rawItem_of_accepted hplan haccepted hindex hmem
      | error halt =>
        cases halt with
        | panic => exact absurd hvalid (validateResponse_ne_panic plan response)
        | error issue => exact ⟨_, rfl, hfailed _⟩

end

/-! ### The request -/

section

variable {registry : CanonicalRegistry} {request : GetBalancesCommand} {env : Environment}
  {plans : List NetworkGroupPlan}

lemma originalIndex_lt {accounts : List OnchainAccount} {group : GroupedAccounts}
    (hgroup : group ∈ groupAccounts accounts) {entry : GroupAccount}
    (hentry : entry ∈ group.accounts) : entry.originalIndex < accounts.length := by
  have hmem := ((groupAccounts_grouped accounts).sublist group hgroup).subset
    (List.mem_map_of_mem hentry)
  exact (List.getElem?_eq_some_iff.mp (List.mem_zipIdx_iff_getElem?.mp hmem)).1

lemma exists_originalIndex {accounts : List OnchainAccount} {index : ℕ}
    (hindex : index < accounts.length) :
    ∃ group ∈ groupAccounts accounts, ∃ entry ∈ group.accounts, entry.originalIndex = index := by
  have hmem : (accounts[index], index) ∈ accounts.zipIdx :=
    List.mem_zipIdx_iff_getElem?.mpr (List.getElem?_eq_getElem hindex)
  rw [← (groupAccounts_perm accounts).mem_iff] at hmem
  obtain ⟨entry, hentry, heq⟩ := List.mem_map.mp hmem
  obtain ⟨group, hgroup, hentry⟩ := List.mem_flatMap.mp hentry
  exact ⟨group, hgroup, entry, hentry, congrArg Prod.snd heq⟩

/-- The results after some groups: the places of their accounts are taken. -/
structure Taken (count : ℕ) (done : List (NetworkGroupPlan × Option GroupExecution))
    (results : List (Option RawBalancesAccountResult)) : Prop where
  length : results.length = count
  filled : ∀ pair ∈ done, ∀ entry ∈ pair.1.accounts, Filled results entry.originalIndex

lemma placeGroup_taken {plan : NetworkGroupPlan} {group : GroupedAccounts}
    (hgroup : group ∈ groupAccounts request.accounts) (hplan : PlanOf registry request group plan)
    {e : GroupExecution} (he : execution env plan = .ok e)
    {done : List (NetworkGroupPlan × Option GroupExecution)}
    {results : List (Option RawBalancesAccountResult)}
    (h : Taken request.accounts.length done results) :
    ∃ after, placeGroup results (plan, some e) = .ok after ∧
      Taken request.accounts.length (done ++ [(plan, some e)]) after := by
  obtain ⟨placed, hplaced, hpositions⟩ := assembleGroupResults_runs hplan he
  have hinside : ∀ entry ∈ placed, entry.1 < results.length := by
    intro entry hentry
    have hmem : entry.1 ∈ placed.map Prod.fst := List.mem_map_of_mem hentry
    rw [hpositions, hplan.accounts] at hmem
    obtain ⟨account, haccount, hindex⟩ := List.mem_map.mp hmem
    rw [← hindex, h.length]
    exact originalIndex_lt hgroup haccount
  obtain ⟨after, hafter, hlength, hfilled⟩ := foldlM_setAt hinside
  refine ⟨after, bind_eq_ok.mpr ⟨e, rfl, bind_eq_ok.mpr ⟨placed, hplaced, hafter⟩⟩,
    hlength.trans h.length, fun pair hpair entry hentry => (hfilled _).mpr ?_⟩
  rcases List.mem_append.mp hpair with hpair | hpair
  · exact Or.inr (h.filled pair hpair entry hentry)
  · rw [List.mem_singleton] at hpair
    subst hpair
    refine Or.inl ?_
    rw [hpositions]
    exact List.mem_map_of_mem hentry

lemma mem_zip_executions {executions : List GroupExecution}
    (hexecutions : plans.mapM (execution env) = .ok executions)
    {pair : NetworkGroupPlan × Option GroupExecution}
    (hpair : pair ∈ plans.zip (executions.map some)) :
    pair.1 ∈ plans ∧ ∃ e, pair.2 = some e ∧ execution env pair.1 = .ok e := by
  rw [List.zip_map_right] at hpair
  obtain ⟨⟨plan, e⟩, hzip, rfl⟩ := List.mem_map.mp hpair
  exact ⟨(List.of_mem_zip hzip).1, e, rfl,
    (List.forall₂_iff_zip.mp (mapM_eq_ok.mp hexecutions)).2 hzip⟩

/-- After the groups, every place is taken. -/
lemma placeGroups_runs (hindexed : Indexed registry)
    (hplans : planGroups registry request = .ok plans) {executions : List GroupExecution}
    (hexecutions : plans.mapM (execution env) = .ok executions) :
    ∃ results, (plans.zip (executions.map some)).foldlM placeGroup
        (List.replicate request.accounts.length none) = .ok results ∧
      results.length = request.accounts.length ∧
      ∀ index < request.accounts.length, Filled results index := by
  have hof := planGroups_planOf hindexed hplans
  have hreturns : Returns (fun _ => False)
      (Taken request.accounts.length (plans.zip (executions.map some)))
      ((plans.zip (executions.map some)).foldlM placeGroup
        (List.replicate request.accounts.length none)) := by
    refine returns_foldlM (Taken request.accounts.length) ?_ ⟨List.length_replicate, by simp⟩
    rintro done ⟨plan, execution?⟩ rest hpairs results htaken
    have hpair : (plan, execution?) ∈ plans.zip (executions.map some) := by simp [hpairs]
    obtain ⟨hplan, e, rfl, he⟩ := mem_zip_executions hexecutions hpair
    obtain ⟨group, hgroup, hplanOf⟩ := exists_of_forall₂ hof.flip hplan
    obtain ⟨after, hafter, htaken⟩ := placeGroup_taken hgroup hplanOf he htaken
    rw [hafter]
    exact htaken
  cases hloop : (plans.zip (executions.map some)).foldlM placeGroup
      (List.replicate request.accounts.length none) with
  | error error =>
    rw [hloop] at hreturns
    exact hreturns.elim
  | ok results =>
    rw [hloop] at hreturns
    have htaken : Taken request.accounts.length (plans.zip (executions.map some)) results :=
      hreturns
    refine ⟨results, rfl, htaken.length, fun index hindex => ?_⟩
    obtain ⟨group, hgroup, entry, hentry, rfl⟩ := exists_originalIndex hindex
    obtain ⟨plan, hplan, hplanOf⟩ := exists_of_forall₂ hof hgroup
    obtain ⟨groupIndex, hget⟩ := List.mem_iff_getElem?.mp hplan
    have hlt : groupIndex < executions.length := by
      rw [← (mapM_eq_ok.mp hexecutions).length_eq]
      exact (List.getElem?_eq_some_iff.mp hget).1
    have hpair : (plan, some executions[groupIndex]) ∈ plans.zip (executions.map some) := by
      refine List.mem_iff_getElem?.mpr ⟨groupIndex, List.getElem?_zip_eq_some.mpr ⟨hget, ?_⟩⟩
      rw [List.getElem?_map, List.getElem?_eq_getElem hlt, Option.map_some]
    exact htaken.filled _ hpair entry (by rwa [hplanOf.accounts])

lemma enrichItem_runs {quotes : Quotes} {item : RawBalanceItemOutcome}
    (hitem : ∀ target rawAmount, item = .resolved target rawAmount →
      isUnsignedInteger rawAmount.toList = true) :
    ∃ enriched, enrichItem quotes item = .ok enriched := by
  cases item with
  | skipped => exact ⟨_, rfl⟩
  | failed => exact ⟨_, rfl⟩
  | resolved target rawAmount =>
    have hdigits := hitem target rawAmount rfl
    obtain ⟨amount, hamount⟩ : ∃ amount, amountFor target rawAmount = .ok amount := by
      unfold amountFor
      cases target.decimals with
      | none => exact ⟨_, rfl⟩
      | some decimals =>
        simp only [formatAmount, if_pos hdigits]
        exact ⟨_, rfl⟩
    have henrich (quote : PriceQuoteResolution) (decimals : ℕ) :
        ∃ outcome, enrichQuote quote rawAmount decimals = .ok outcome := by
      cases quote with
      | unavailable => exact ⟨_, rfl⟩
      | unsupported => exact ⟨_, rfl⟩
      | available unitPrice quoteCurrency priceAsOf =>
        simp only [enrichQuote]
        rcases multiplyAmountByPrice_spec rawAmount decimals unitPrice with
          ⟨error, herror⟩ | ⟨value, _, _, hvalue, -⟩
        · rw [herror]
          exact ⟨_, rfl⟩
        · rw [hvalue]
          exact ⟨_, rfl⟩
    obtain ⟨quote, hquote⟩ : ∃ quote, quoteFor quotes target rawAmount = .ok quote := by
      unfold quoteFor
      split
      · split
        · split
          · exact henrich _ _
          · exact ⟨_, rfl⟩
        · exact ⟨_, rfl⟩
        · exact ⟨_, rfl⟩
      · exact ⟨_, rfl⟩
    exact ⟨_, bind_eq_ok.mpr ⟨amount, hamount, bind_eq_ok.mpr ⟨quote, hquote, rfl⟩⟩⟩

lemma responseOf_execution {plan : NetworkGroupPlan} {e : GroupExecution}
    (he : execution env plan = .ok e) : responseOf e = received env plan := by
  unfold execution at he
  unfold received
  split at he
  · cases he
    rw [if_pos ‹_›]
    rfl
  · rw [if_neg ‹_›]
    cases hclient : env.client with
    | none =>
      rw [hclient] at he
      cases he
      rfl
    | some client =>
      rw [hclient] at he
      simp only at he ⊢
      cases hjoined : client (bigwigRequest plan) with
      | failed =>
        rw [hjoined] at he
        cases he
      | finished response =>
        rw [hjoined] at he
        cases he
        cases response <;> rfl

/-- A request that is planned is answered if no task is lost. -/
lemma resolve_runs (hindexed : Indexed registry) (hplans : planGroups registry request = .ok plans)
    (hkept : ∀ plan ∈ plans, ¬Lost env plan) :
    ∃ result, resolve registry env request = .ok result := by
  obtain ⟨executions, hexecutions⟩ := exists_mapM_eq_ok fun plan hplan =>
    execution_of_not_lost (hkept plan hplan)
  obtain ⟨results, hresults, hlength, hfilled⟩ := placeGroups_runs hindexed hplans hexecutions
  obtain ⟨accounts, haccounts⟩ : ∃ accounts, (results.mapM expect : Service _) = .ok accounts := by
    refine exists_mapM_eq_ok fun result hresult => ?_
    obtain ⟨index, hget⟩ := List.mem_iff_getElem?.mp hresult
    obtain ⟨account, haccount⟩ := hfilled index
      (hlength ▸ (List.getElem?_eq_some_iff.mp hget).1)
    rw [hget, Option.some.injEq] at haccount
    exact ⟨account, expect_eq_ok.mpr haccount⟩
  have hplaced := placeGroups_placed hindexed hplans (fun plan e hpair => by
    obtain ⟨-, e', heq, he⟩ := mem_zip_executions hexecutions hpair
    cases heq
    exact responseOf_execution he) hresults
  obtain ⟨enriched, henriched⟩ : ∃ enriched,
      enrichAccountResults accounts (latestQuotes env request accounts) = .ok enriched := by
    refine exists_mapM_eq_ok fun account haccount => ?_
    obtain ⟨result, hresult, haccount⟩ := mem_of_mapM haccounts haccount
    rw [expect_eq_ok] at haccount
    subst haccount
    obtain ⟨index, hget⟩ := List.mem_iff_getElem?.mp hresult
    obtain ⟨plan, -, -, hattributed⟩ := (hplaced.2 index account hget).items
    obtain ⟨items, hitems⟩ := exists_mapM_eq_ok fun item hitem =>
      @enrichItem_runs (latestQuotes env request accounts) item fun target rawAmount hresolved => by
        obtain ⟨selector, -, hat⟩ := exists_of_forall₂ hattributed.flip hitem
        exact (hat.sound target rawAmount hresolved).1
    exact ⟨_, bind_eq_ok.mpr ⟨items, hitems, rfl⟩⟩
  rw [resolve_eq_inTurn]
  exact ⟨_, bind_eq_ok.mpr ⟨plans, hplans, bind_eq_ok.mpr ⟨executions, hexecutions,
    bind_eq_ok.mpr ⟨results, hresults, bind_eq_ok.mpr ⟨accounts, haccounts,
      bind_eq_ok.mpr ⟨enriched, henriched, rfl⟩⟩⟩⟩⟩⟩

/-- Environments in which the calls of a request come to the same answer it in the same way. -/
lemma resolve_congr {env' : Environment} (hreader : env.priceQuoteReader = env'.priceQuoteReader)
    (hcalls : ∀ plans, planGroups registry request = .ok plans → ∀ plan ∈ plans,
      execution env plan = execution env' plan) :
    resolve registry env request = resolve registry env' request := by
  rw [resolve_eq_inTurn, resolve_eq_inTurn]
  unfold resolveInTurn
  cases hplans : planGroups registry request with
  | error error => rfl
  | ok plans =>
    have hquotes : latestQuotes env request = latestQuotes env' request := by
      funext accounts
      unfold latestQuotes
      rw [hreader]
    simp only [bind_ok, hquotes, mapM_congr (hcalls plans hplans)]

lemma resolve_of_lost (hplans : planGroups registry request = .ok plans)
    (hlost : ∃ plan ∈ plans, Lost env plan) :
    resolve registry env request = .error (.error .executionTaskFailed) := by
  obtain ⟨plan, hplan, hlost⟩ := hlost
  rw [resolve_eq_inTurn]
  unfold resolveInTurn
  rw [hplans, bind_ok]
  cases hexecutions : plans.mapM (execution env) with
  | error error =>
    rw [mapM_execution_error hexecutions]
    rfl
  | ok executions =>
    obtain ⟨e, -, he⟩ := exists_of_mapM hexecutions hplan
    rw [execution_of_lost hlost] at he
    cases he

end

/-- Planning is refused only for what the catalog does not support. -/
lemma planGroups_returns {catalog : Catalog} {registry : CanonicalRegistry}
    (hregistry : fromCatalog catalog = .ok registry) (request : GetBalancesCommand)
    (hnetworks : ∀ account ∈ request.accounts,
      toAsciiLowercase account.networkSlug = account.networkSlug)
    (hassets : ∀ slug ∈ request.tokens.assetSlugs, toAsciiLowercase slug = slug)
    {error : Halt BalanceSnapshotServiceError} (h : planGroups registry request = .error error) :
    IsUnsupported error := by
  have hgrouped := groupAccounts_grouped request.accounts
  have hlower : ∀ group ∈ groupAccounts request.accounts,
      toAsciiLowercase group.networkSlug = group.networkSlug := by
    intro group hgroup
    obtain ⟨entry, hentry⟩ :=
      List.exists_mem_of_ne_nil _ (groupAccounts_nonempty request.accounts group hgroup)
    have hmem := (hgrouped.sublist group hgroup).subset (List.mem_map_of_mem hentry)
    rw [← hgrouped.slug group hgroup entry hentry]
    exact hnetworks entry.account ((List.mem_zipIdx hmem).2.2 ▸ List.getElem_mem _)
  have hgroup (group : GroupedAccounts) (hmem : group ∈ groupAccounts request.accounts) :=
    planGroup_returns (fromCatalog_builtFrom hregistry) (hlower group hmem)
      (fromCatalog_indexed hregistry) rfl hassets
      ((length_group_le hmem).trans request.accountsSize)
  exact (returns_iff.mp (returns_mapM hgroup)).1 error h

/-- How a request ends: it cannot be planned, for what the catalog does not support; or it is
planned, and then it is answered exactly if no task is lost. -/
inductive Ends (registry : CanonicalRegistry) (env : Environment) (request : GetBalancesCommand) :
    Prop
  | refused (error : Halt BalanceSnapshotServiceError) (unsupported : IsUnsupported error)
    (planned : planGroups registry request = .error error)
    (resolved : resolve registry env request = .error error)
  | lost (plans : List NetworkGroupPlan) (planned : planGroups registry request = .ok plans)
    (lost : ∃ plan ∈ plans, Lost env plan)
    (resolved : resolve registry env request = .error (.error .executionTaskFailed))
  | answered (plans : List NetworkGroupPlan) (planned : planGroups registry request = .ok plans)
    (kept : ∀ plan ∈ plans, ¬Lost env plan) (result : GetBalancesResult)
    (resolved : resolve registry env request = .ok result)

lemma ends {catalog : Catalog} {registry : CanonicalRegistry}
    (hregistry : fromCatalog catalog = .ok registry) (env : Environment)
    (request : GetBalancesCommand)
    (hnetworks : ∀ account ∈ request.accounts,
      toAsciiLowercase account.networkSlug = account.networkSlug)
    (hassets : ∀ slug ∈ request.tokens.assetSlugs, toAsciiLowercase slug = slug) :
    Ends registry env request := by
  cases hplans : planGroups registry request with
  | error error =>
    refine .refused error (planGroups_returns hregistry request hnetworks hassets hplans) hplans ?_
    unfold resolve
    rw [hplans]
    rfl
  | ok plans =>
    by_cases hlost : ∃ plan ∈ plans, Lost env plan
    · exact .lost plans hplans hlost (resolve_of_lost hplans hlost)
    · have hkept : ∀ plan ∈ plans, ¬Lost env plan := fun plan hplan h => hlost ⟨plan, hplan, h⟩
      obtain ⟨result, hresult⟩ := resolve_runs (fromCatalog_indexed hregistry) hplans hkept
      exact .answered plans hplans hkept result hresult

/-- **A balance request that is planned is answered.** For every registry, every command in lower
case and every environment: the service ends as it would without concurrency, so the order in
which the calls end makes no difference; and it ends in one of three ways, none of which is a
panic, whatever the provider answers and whatever the prices are. -/
theorem resolve_ends {catalog : Catalog} {registry : CanonicalRegistry}
    (hregistry : fromCatalog catalog = .ok registry) (env : Environment)
    (request : GetBalancesCommand)
    (hnetworks : ∀ account ∈ request.accounts,
      toAsciiLowercase account.networkSlug = account.networkSlug)
    (hassets : ∀ slug ∈ request.tokens.assetSlugs, toAsciiLowercase slug = slug) :
    resolve registry env request = resolveInTurn registry env request ∧
      (∀ env' : Environment, env'.client = env.client →
        env'.priceQuoteReader = env.priceQuoteReader →
        resolve registry env' request = resolve registry env request) ∧
      Ends registry env request := by
  refine ⟨resolve_eq_inTurn _ _ _, fun env' hclient hreader => ?_,
    ends hregistry env request hnetworks hassets⟩
  refine resolve_congr hreader fun plans _ plan _ => ?_
  unfold execution
  rw [hclient]

/-! ### Two networks -/

/-- The sample catalog with a second network, on which there is the same asset. -/
def twinCatalog : Catalog :=
  { sampleCatalog with
    networks := sampleCatalog.networks ++ [{
      slug := "base-mainnet", name := "Base", family := "evm", chainId := some 8453
      caip2 := some "eip155:8453", metadata := .object, status := "active", sortOrder := 2 }]
    assetChainMaps := sampleCatalog.assetChainMaps ++ [{
      assetSlug := "ethereum", networkSlug := "base-mainnet", isNative := true
      deploymentAddress := none, deploymentBlock := none, decimals := some 18
      tokenStandard := "native", metadata := .object, status := "active", sortOrder := 2 }] }

lemma twinCatalog_accepted : (fromCatalog twinCatalog).toOption.isSome = true := by
  decide +kernel

def twinRegistry : CanonicalRegistry := value _ twinCatalog_accepted

lemma fromCatalog_twinCatalog : fromCatalog twinCatalog = .ok twinRegistry := eq_ok_value _ _

lemma twinCommand_accepted : (tryNew .latest
    [⟨"base-mainnet", "0x1111111111111111111111111111111111111111", none⟩,
      ⟨"eth-mainnet", "0x1111111111111111111111111111111111111111", some "cold"⟩]
    "USD" ⟨["ethereum"], []⟩).toOption.isSome = true := by
  decide +kernel

def twinCommand : GetBalancesCommand := value _ twinCommand_accepted

lemma reverse_perm (calls : List (ℕ × Joined)) : calls.reverse.Perm calls := calls.reverse_perm

/-- The call of one network fails, that of the other is answered; the last call ends first. -/
def twinEnvironment : Environment where
  client := some fun request =>
    if request.networkSlug = "eth-mainnet" then .finished (.error .timeout)
    else .finished (.ok {
      primitive := .evmBalances
      status := .complete
      network := ⟨"base-mainnet", 8453⟩
      requestedAsOf := .latest
      resolvedEvidence := ⟨.observedHead, "25000000", "0xab", "2026-06-17T12:00:00Z"⟩
      items := [.resolved "0x1111111111111111111111111111111111111111" .native "7"] })
  completion := List.reverse
  completion_perm := BalanceCompletion.reverse_perm
  priceQuoteReader := none

theorem resolve_ends_twin :
    resolve twinRegistry twinEnvironment twinCommand =
        resolveInTurn twinRegistry twinEnvironment twinCommand ∧
      Ends twinRegistry twinEnvironment twinCommand ∧
      (resolve twinRegistry twinEnvironment twinCommand).toOption.isSome = true := by
  obtain ⟨hinTurn, -, hends⟩ := resolve_ends fromCatalog_twinCatalog twinEnvironment twinCommand
    (by decide +kernel) (by decide +kernel)
  exact ⟨hinTurn, hends, by decide +kernel⟩

end MotherApi.BalanceCompletion
