import MotherApi.BalancePlan
import MotherApi.Decimal
import MotherApi.Rfc3339

/-!
What comes back for a group of accounts, and how much of it is checked.

A response is held against the plan of its group: its network, its items one by one and in
their order, and its status. The point in time it speaks about is carried on, but not compared
with the one that was asked for.
-/

namespace MotherApi.BalanceResponse

open MotherApi.Lib.Fallible MotherApi.Strings MotherApi.Registry MotherApi.BalanceCommand
open MotherApi.BalanceTargets MotherApi.BalancePlan MotherApi.Decimal

inductive BigwigAsOf
  | latest
  | timestamp (timestamp : String)
  | blockNumber (blockNumber : String)
  deriving DecidableEq

def BigwigAsOf.fromAsOf : AsOf → BigwigAsOf
  | .latest => .latest
  | .timestamp text => .timestamp text
  | .blockNumber text => .blockNumber text

structure BigwigRequest where
  networkSlug : String
  asOf : BigwigAsOf
  accounts : List String
  tokens : List BigwigTarget
  deriving DecidableEq

def bigwigRequest (plan : NetworkGroupPlan) : BigwigRequest where
  networkSlug := plan.networkSlug
  asOf := .fromAsOf plan.asOf
  accounts := plan.accounts.map (·.account.address)
  tokens := plan.targets.map (·.wireTarget)

inductive BigwigPrimitive
  | evmBalances
  deriving DecidableEq

inductive BigwigEvidenceStatus
  | complete | partially | failed
  deriving DecidableEq

structure BigwigEvidenceNetwork where
  networkSlug : String
  chainId : ℕ
  deriving DecidableEq

inductive BigwigResolvedEvidenceKind
  | exactBlock | resolvedTimestamp | observedHead
  deriving DecidableEq

structure BigwigResolvedEvidence where
  kind : BigwigResolvedEvidenceKind
  blockNumber : String
  blockHash : String
  blockTimestamp : String
  deriving DecidableEq

inductive BigwigEvidenceItem
  | resolved (accountAddress : String) (target : BigwigTarget) (rawAmount : String)
  | failed (accountAddress : String) (target : BigwigTarget)
  | unavailable (accountAddress : String) (target : BigwigTarget)
  deriving DecidableEq

structure BigwigResponse where
  primitive : BigwigPrimitive
  status : BigwigEvidenceStatus
  network : BigwigEvidenceNetwork
  requestedAsOf : BigwigAsOf
  resolvedEvidence : BigwigResolvedEvidence
  items : List BigwigEvidenceItem
  deriving DecidableEq

structure BalanceEvidence where
  networkSlug : String
  observedAt : String
  blockNumber : String
  blockHash : String
  blockTimestamp : String
  deriving DecidableEq

inductive TargetOutcome
  | resolved (rawAmount : String)
  | failed
  deriving DecidableEq

structure ValidatedGroup where
  evidence : BalanceEvidence
  targetOutcomes : List TargetOutcome
  deriving DecidableEq

inductive ResponseValidationIssue
  | wrongPrimitive
  | wrongNetwork
  | wrongChainId
  | wrongCardinality
  | unexpectedCorrelation
  | duplicateCorrelation
  | invalidRawAmount
  | wrongStatus
  deriving DecidableEq

abbrev Validation := Except (Halt ResponseValidationIssue)

/-! ### The items -/

namespace BigwigEvidenceItem

def accountAddress : BigwigEvidenceItem → String
  | resolved accountAddress _ _ | failed accountAddress _ | unavailable accountAddress _ =>
    accountAddress

def target : BigwigEvidenceItem → BigwigTarget
  | resolved _ target _ | failed _ target | unavailable _ target => target

/-- Whose balance of what the item is about. -/
def correlation (item : BigwigEvidenceItem) : String × TargetKey :=
  (toAsciiLowercase item.accountAddress, TargetKey.fromBigwig item.target)

def outcome : BigwigEvidenceItem → TargetOutcome
  | resolved _ _ rawAmount => .resolved rawAmount
  | failed _ _ | unavailable _ _ => .failed

def isResolved : BigwigEvidenceItem → Bool
  | resolved _ _ _ => true
  | failed _ _ | unavailable _ _ => false

/-- An amount is a numeral. -/
def hasValidAmount : BigwigEvidenceItem → Bool
  | resolved _ _ rawAmount => isUnsignedInteger rawAmount.toList
  | failed _ _ | unavailable _ _ => true

end BigwigEvidenceItem

/-- The variables of the loop over the items. -/
structure Checking where
  correlations : List (String × TargetKey) := []
  targetOutcomes : List TargetOutcome := []
  resolvedCount : ℕ := 0
  failedCount : ℕ := 0

def Checking.push (state : Checking) (item : BigwigEvidenceItem) : Checking where
  correlations := item.correlation :: state.correlations
  targetOutcomes := state.targetOutcomes ++ [item.outcome]
  resolvedCount := state.resolvedCount + if item.isResolved then 1 else 0
  failedCount := state.failedCount + if item.isResolved then 0 else 1

/-- One round of the loop. -/
def checkItem (plan : NetworkGroupPlan) (state : Checking) :
    BigwigEvidenceItem × ℕ → Validation Checking
  | (item, itemIndex) => do
    let expectedAccount ← expect plan.accounts[itemIndex / plan.targets.length]?
    let expectedTarget ← expect plan.targets[itemIndex % plan.targets.length]?
    if item.correlation ∈ state.correlations then fail .duplicateCorrelation
    else if item.correlation ≠ (toAsciiLowercase expectedAccount.account.address,
        TargetKey.fromBigwig expectedTarget.wireTarget) then fail .unexpectedCorrelation
    else if ¬item.hasValidAmount then fail .invalidRawAmount
    else return state.push item

/-- `u64::try_from` of a signed value of 64 bits. -/
def toU64 (n : ℤ) : Option ℕ := if 0 ≤ n then some n.toNat else none

def expectedStatus (resolvedCount failedCount : ℕ) : BigwigEvidenceStatus :=
  if failedCount = 0 then .complete else if resolvedCount = 0 then .failed else .partially

def validateResponse (plan : NetworkGroupPlan) (response : BigwigResponse) :
    Validation ValidatedGroup :=
  if response.primitive ≠ .evmBalances then fail .wrongPrimitive
  else if response.network.networkSlug ≠ plan.networkSlug then fail .wrongNetwork
  else if some response.network.chainId ≠ plan.chainId.bind toU64 then fail .wrongChainId
  else if response.items.length ≠ plan.accounts.length * plan.targets.length then
    fail .wrongCardinality
  else do
    let state ← response.items.zipIdx.foldlM (checkItem plan) {}
    if response.status ≠ expectedStatus state.resolvedCount state.failedCount then
      fail .wrongStatus
    else return {
      evidence := {
        networkSlug := response.network.networkSlug
        observedAt := response.resolvedEvidence.blockTimestamp
        blockNumber := response.resolvedEvidence.blockNumber
        blockHash := response.resolvedEvidence.blockHash
        blockTimestamp := response.resolvedEvidence.blockTimestamp }
      targetOutcomes := state.targetOutcomes }

/-! ### What is accepted -/

/-- The item is about the account and the target that belong to its position. -/
def InPlace (plan : NetworkGroupPlan) (index : ℕ) (item : BigwigEvidenceItem) : Prop :=
  ∃ account planned, plan.accounts[index / plan.targets.length]? = some account ∧
    plan.targets[index % plan.targets.length]? = some planned ∧
    item.correlation = (toAsciiLowercase account.account.address, planned.key)

lemma checkItem_eq_ok {plan : NetworkGroupPlan} {state state' : Checking}
    {item : BigwigEvidenceItem} {index : ℕ} :
    checkItem plan state (item, index) = .ok state' ↔
      item.correlation ∉ state.correlations ∧ InPlace plan index item ∧
        item.hasValidAmount = true ∧ state' = state.push item := by
  unfold checkItem InPlace
  cases haccount : plan.accounts[index / plan.targets.length]? with
  | none => simp [expect, bind, Except.bind, haccount]
  | some account =>
    cases hplanned : plan.targets[index % plan.targets.length]? with
    | none => simp [expect, bind, Except.bind, haccount, hplanned]
    | some planned =>
      simp only [haccount, hplanned, expect, bind, Except.bind, pure, Except.pure, fail,
        PlannedTarget.key]
      grind

/-- The loop accepts the items exactly if each is in its place with a valid amount and no two
are about the same balance. -/
lemma checkItems_eq_ok {plan : NetworkGroupPlan} {items : List BigwigEvidenceItem} {start : ℕ}
    {state state' : Checking} :
    (items.zipIdx start).foldlM (checkItem plan) state = .ok state' ↔
      (∀ i item, items[i]? = some item →
        InPlace plan (start + i) item ∧ item.hasValidAmount = true) ∧
      (items.map (·.correlation)).Nodup ∧
      (∀ item ∈ items, item.correlation ∉ state.correlations) ∧
      state' = items.foldl Checking.push state := by
  induction items generalizing start state with
  | nil =>
    rw [List.zipIdx_nil, List.foldlM_nil, List.foldl_nil]
    simp only [pure, Except.pure, Except.ok.injEq, eq_comm (a := state)]
    simp
  | cons item items ih =>
    rw [List.zipIdx_cons, List.foldlM_cons, bind_eq_ok]
    simp only [checkItem_eq_ok, List.foldl_cons, List.map_cons, List.nodup_cons, List.mem_cons,
      forall_eq_or_imp]
    constructor
    · rintro ⟨pushed, ⟨hnew, hplace, hvalid, rfl⟩, h⟩
      obtain ⟨hitems, hnodup, hfresh, rfl⟩ := ih.mp h
      refine ⟨?_, ⟨?_, hnodup⟩, ⟨hnew, ?_⟩, rfl⟩
      · intro i other hother
        cases i with
        | zero =>
          cases hother
          exact ⟨hplace, hvalid⟩
        | succ i =>
          have := hitems i other hother
          rwa [Nat.add_assoc, Nat.add_comm 1 i] at this
      · intro hmem
        obtain ⟨other, hother, heq⟩ := List.mem_map.mp hmem
        exact hfresh other hother (by simp [Checking.push, heq])
      · intro other hother hmem
        exact hfresh other hother (List.mem_cons_of_mem _ hmem)
    · rintro ⟨hitems, ⟨hother, hnodup⟩, ⟨hnew, hfresh⟩, rfl⟩
      obtain ⟨hplace, hvalid⟩ := hitems 0 item rfl
      refine ⟨_, ⟨hnew, hplace, hvalid, rfl⟩, ih.mpr ⟨?_, hnodup, ?_, rfl⟩⟩
      · intro i other hget
        have := hitems (i + 1) other hget
        rwa [Nat.add_comm i 1, ← Nat.add_assoc] at this
      · intro other hmem
        simp only [Checking.push, List.mem_cons, not_or]
        exact ⟨fun heq => hother (List.mem_map.mpr ⟨other, hmem, heq⟩), hfresh other hmem⟩

lemma foldl_push_outcomes (items : List BigwigEvidenceItem) (state : Checking) :
    (items.foldl Checking.push state).targetOutcomes =
      state.targetOutcomes ++ items.map (·.outcome) := by
  induction items generalizing state with
  | nil => simp
  | cons item items ih => simp [ih, Checking.push]

/-- What an accepted response is. -/
structure Accepted (plan : NetworkGroupPlan) (response : BigwigResponse) : Prop where
  network : response.network.networkSlug = plan.networkSlug
  chain : some response.network.chainId = plan.chainId.bind toU64
  size : response.items.length = plan.accounts.length * plan.targets.length
  items : ∀ i item, response.items[i]? = some item →
    InPlace plan i item ∧ item.hasValidAmount = true
  distinct : (response.items.map (·.correlation)).Nodup
  status : response.status = expectedStatus
    (response.items.foldl Checking.push {}).resolvedCount
    (response.items.foldl Checking.push {}).failedCount

/-- The evidence the accounts of the group get. -/
def evidenceOf (response : BigwigResponse) : BalanceEvidence where
  networkSlug := response.network.networkSlug
  observedAt := response.resolvedEvidence.blockTimestamp
  blockNumber := response.resolvedEvidence.blockNumber
  blockHash := response.resolvedEvidence.blockHash
  blockTimestamp := response.resolvedEvidence.blockTimestamp

/-- **Exactly the responses that answer the plan item by item are accepted**; nothing of what a
response says about time is among the conditions. -/
theorem validateResponse_eq_ok {plan : NetworkGroupPlan} {response : BigwigResponse}
    {validated : ValidatedGroup} :
    validateResponse plan response = .ok validated ↔
      Accepted plan response ∧
        validated = ⟨evidenceOf response, response.items.map (·.outcome)⟩ := by
  have hprimitive : response.primitive = .evmBalances := by cases response.primitive; rfl
  unfold validateResponse
  rw [if_neg (not_not.mpr hprimitive)]
  constructor
  · intro h
    split at h
    · cases h
    rename_i hnetwork
    split at h
    · cases h
    rename_i hchain
    split at h
    · cases h
    rename_i hsize
    obtain ⟨state, hloop, h⟩ := bind_eq_ok.mp h
    split at h
    · cases h
    rename_i hstatus
    simp only [pure, Except.pure, Except.ok.injEq] at h
    obtain ⟨hitems, hnodup, -, rfl⟩ := checkItems_eq_ok.mp hloop
    refine ⟨⟨not_not.mp hnetwork, not_not.mp hchain, not_not.mp hsize, ?_, hnodup,
      not_not.mp hstatus⟩, ?_⟩
    · simpa using hitems
    · rw [← h, foldl_push_outcomes]
      rfl
  · rintro ⟨haccepted, rfl⟩
    rw [if_neg (not_not.mpr haccepted.network), if_neg (not_not.mpr haccepted.chain),
      if_neg (not_not.mpr haccepted.size), bind_eq_ok]
    refine ⟨_, checkItems_eq_ok.mpr ⟨?_, haccepted.distinct, by simp, rfl⟩, ?_⟩
    · simpa using haccepted.items
    · rw [if_neg (not_not.mpr haccepted.status), foldl_push_outcomes]
      rfl

end MotherApi.BalanceResponse
