import MotherApi.BalanceService

/-!
Balance results as responses, for one account and for many.

The items of an account are sorted into positions, skipped items and errors in one pass, which
also counts them. The status of an account is read off its counters; the status of a bulk
response is read off the sums of these and off whether some account is not complete.
-/

namespace MotherApi.BalancePresenter

open MotherApi.BalanceCommand MotherApi.BalanceTargets MotherApi.BalanceResponse
open MotherApi.BalanceService

inductive BalanceResponseStatus
  | complete | partially | failed
  deriving DecidableEq

structure BalanceAsOfPayload where
  kind : String
  timestamp : Option String
  blockNumber : Option String
  observedAt : Option String
  deriving DecidableEq

structure BalanceSummaryPayload where
  requestedAccounts : ℕ
  requestedAssets : ℕ
  requestedResolutionItems : ℕ
  positionsReturned : ℕ
  skippedItems : ℕ
  failedItems : ℕ
  deriving DecidableEq

structure BalanceAccountIdentityPayload where
  networkSlug : String
  address : String
  clientRef : Option String
  deriving DecidableEq

structure BalanceBlockPayload where
  number : String
  hash : String
  timestamp : String
  deriving DecidableEq

structure BalanceEvidencePayload where
  source : String
  networkSlug : String
  block : BalanceBlockPayload
  observedAt : String
  deriving DecidableEq

structure BalanceSelectorPayload where
  kind : String
  value : String
  deriving DecidableEq

structure BalanceAmountPayload where
  rawAmount : String
  amount : Option String
  decimals : Option ℕ
  deriving DecidableEq

inductive BalanceQuoteStatus
  | available | unavailable | unsupported
  deriving DecidableEq

structure BalanceQuotePayload where
  status : BalanceQuoteStatus
  currency : Option String
  unitPrice : Option String
  value : Option String
  priceAsOf : Option String
  deriving DecidableEq

structure BalancePositionPayload where
  selector : BalanceSelectorPayload
  networkSlug : String
  contractAddress : Option String
  assetSlug : Option String
  symbol : Option String
  balance : BalanceAmountPayload
  quote : BalanceQuotePayload
  deriving DecidableEq

structure BalanceSkippedPayload where
  networkSlug : String
  assetSlug : String
  reason : String
  deriving DecidableEq

structure BalanceErrorPayload where
  networkSlug : String
  selector : BalanceSelectorPayload
  contractAddress : Option String
  assetSlug : Option String
  code : String
  message : String
  deriving DecidableEq

structure BalanceAccountPayload where
  status : BalanceResponseStatus
  account : BalanceAccountIdentityPayload
  evidence : Option BalanceEvidencePayload
  positions : List BalancePositionPayload
  skipped : List BalanceSkippedPayload
  errors : List BalanceErrorPayload
  deriving DecidableEq

structure SingleBalanceResponse where
  ok : Bool
  responseType : String
  status : BalanceResponseStatus
  asOf : BalanceAsOfPayload
  quoteCurrency : String
  account : BalanceAccountIdentityPayload
  evidence : Option BalanceEvidencePayload
  positions : List BalancePositionPayload
  skipped : List BalanceSkippedPayload
  errors : List BalanceErrorPayload
  deriving DecidableEq

structure BulkBalanceResponse where
  ok : Bool
  responseType : String
  status : BalanceResponseStatus
  asOf : BalanceAsOfPayload
  quoteCurrency : String
  summary : BalanceSummaryPayload
  accounts : List BalanceAccountPayload
  errors : List BalanceErrorPayload
  deriving DecidableEq

inductive BalancesResponsePresenterError
  | expectedSingleAccount
  deriving DecidableEq

/-! ### Payloads -/

def accountIdentity (account : OnchainAccount) : BalanceAccountIdentityPayload :=
  ⟨account.networkSlug, account.address, account.clientRef⟩

def evidencePayload (evidence : BalanceEvidence) : BalanceEvidencePayload where
  source := "bigwig"
  networkSlug := evidence.networkSlug
  block := ⟨evidence.blockNumber, evidence.blockHash, evidence.blockTimestamp⟩
  observedAt := evidence.observedAt

def selectorPayload : BalanceTokenSelector → BalanceSelectorPayload
  | .assetSlug assetSlug => ⟨"asset_slug", assetSlug⟩
  | .contractAddress contractAddress => ⟨"contract_address", contractAddress⟩

def contractAddress (target : ResolvedBalanceTarget) : Option String :=
  match target.kind with
  | .native => none
  | .erc20 contractAddress => some contractAddress

/-- The code of an error in a response, and its message. -/
def errorText : BalanceItemErrorCode → String × String
  | .balanceResolutionFailed => ("balance_resolution_failed",
    "Balance could not be resolved for this asset on this network.")
  | .balanceProviderUnavailable => ("balance_provider_unavailable",
    "Balance is temporarily unavailable for this asset on this network.")
  | .priceResolutionFailed => ("price_resolution_failed",
    "Quote could not be resolved for this asset.")
  | .priceProviderUnavailable => ("price_provider_unavailable",
    "Quote is temporarily unavailable for this asset.")
  | .internalError => ("internal_error", "This balance item could not be processed.")

def errorPayload (target : ResolvedBalanceTarget) (code : BalanceItemErrorCode) :
    BalanceErrorPayload where
  networkSlug := target.networkSlug
  selector := selectorPayload target.selector
  contractAddress := contractAddress target
  assetSlug := target.assetSlug
  code := (errorText code).1
  message := (errorText code).2

def presentQuote (target : ResolvedBalanceTarget) :
    BalanceQuoteOutcome → BalanceQuotePayload × Option BalanceErrorPayload
  | .available currency unitPrice value priceAsOf =>
    (⟨.available, some currency, some unitPrice, some value, some priceAsOf⟩, none)
  | .unavailable code => (⟨.unavailable, none, none, none, none⟩, some (errorPayload target code))
  | .unsupported => (⟨.unsupported, none, none, none, none⟩, none)

def presentAsOf (asOf : AsOf) (evidence : Option BalanceEvidencePayload) : BalanceAsOfPayload :=
  match asOf with
  | .latest => ⟨"latest", none, none, evidence.map (·.observedAt)⟩
  | .timestamp timestamp => ⟨"timestamp", some timestamp, none, none⟩
  | .blockNumber blockNumber => ⟨"block_number", none, some blockNumber, none⟩

/-! ### One account -/

structure AccountPresentationStats where
  supportedBalanceItems : ℕ := 0
  resolvedBalanceItems : ℕ := 0
  failedBalanceItems : ℕ := 0
  degradedQuote : Bool := false
  deriving DecidableEq

namespace AccountPresentationStats

def recordResolved (stats : AccountPresentationStats) (degradedQuote : Bool) :
    AccountPresentationStats :=
  { stats with
    supportedBalanceItems := stats.supportedBalanceItems + 1
    resolvedBalanceItems := stats.resolvedBalanceItems + 1
    degradedQuote := stats.degradedQuote || degradedQuote }

def recordFailed (stats : AccountPresentationStats) : AccountPresentationStats :=
  { stats with
    supportedBalanceItems := stats.supportedBalanceItems + 1
    failedBalanceItems := stats.failedBalanceItems + 1 }

def status (stats : AccountPresentationStats) : BalanceResponseStatus :=
  if stats.supportedBalanceItems = 0 then .complete
  else if stats.resolvedBalanceItems = 0 then .failed
  else if stats.failedBalanceItems > 0 ∨ stats.degradedQuote then .partially
  else .complete

end AccountPresentationStats

/-- What the pass over the items of an account has made so far. -/
structure Presented where
  positions : List BalancePositionPayload := []
  skipped : List BalanceSkippedPayload := []
  errors : List BalanceErrorPayload := []
  stats : AccountPresentationStats := {}
  deriving DecidableEq

def positionPayload (target : ResolvedBalanceTarget) (rawAmount : String) (amount : Option String)
    (quote : BalanceQuotePayload) : BalancePositionPayload where
  selector := selectorPayload target.selector
  networkSlug := target.networkSlug
  contractAddress := contractAddress target
  assetSlug := target.assetSlug
  symbol := target.symbol
  balance := ⟨rawAmount, amount, target.decimals⟩
  quote := quote

def presentItem (presented : Presented) : BalanceItemOutcome → Presented
  | .resolved target rawAmount amount quote =>
    let quotePayload := (presentQuote target quote).1
    let error := (presentQuote target quote).2
    { presented with
      stats := presented.stats.recordResolved (quotePayload.status ≠ .available)
      errors := presented.errors ++ error.toList
      positions := presented.positions ++ [positionPayload target rawAmount amount quotePayload] }
  | .skipped networkSlug assetSlug =>
    { presented with
      skipped := presented.skipped ++ [⟨networkSlug, assetSlug, "asset_not_supported_on_network"⟩] }
  | .failed target code =>
    { presented with
      stats := presented.stats.recordFailed
      errors := presented.errors ++ [errorPayload target code] }

structure PresentedAccount where
  payload : BalanceAccountPayload
  stats : AccountPresentationStats
  deriving DecidableEq

def presentAccount (account : BalancesAccountResult) : PresentedAccount :=
  let presented := account.items.foldl presentItem {}
  { payload :=
      { status := presented.stats.status
        account := accountIdentity account.account
        evidence := account.evidence.map evidencePayload
        positions := presented.positions
        skipped := presented.skipped
        errors := presented.errors }
    stats := presented.stats }

/-! ### Many accounts -/

/-- The largest `usize`. -/
def USIZE_MAX : ℕ := 2 ^ 64 - 1

def saturatingMul (a b : ℕ) : ℕ := min (a * b) USIZE_MAX

structure BulkPresentationStats where
  supportedBalanceItems : ℕ := 0
  resolvedBalanceItems : ℕ := 0
  failedBalanceItems : ℕ := 0
  positionsReturned : ℕ := 0
  skippedItems : ℕ := 0
  hasDegradedAccount : Bool := false
  deriving DecidableEq

namespace BulkPresentationStats

def addAccount (stats : BulkPresentationStats) (account : PresentedAccount) :
    BulkPresentationStats where
  supportedBalanceItems := stats.supportedBalanceItems + account.stats.supportedBalanceItems
  resolvedBalanceItems := stats.resolvedBalanceItems + account.stats.resolvedBalanceItems
  failedBalanceItems := stats.failedBalanceItems + account.stats.failedBalanceItems
  positionsReturned := stats.positionsReturned + account.payload.positions.length
  skippedItems := stats.skippedItems + account.payload.skipped.length
  hasDegradedAccount := stats.hasDegradedAccount || account.payload.status ≠ .complete

def fromAccounts (accounts : List PresentedAccount) : BulkPresentationStats :=
  accounts.foldl addAccount {}

def status (stats : BulkPresentationStats) : BalanceResponseStatus :=
  if stats.supportedBalanceItems = 0 then .complete
  else if stats.resolvedBalanceItems = 0 then .failed
  else if stats.hasDegradedAccount then .partially
  else .complete

def summary (stats : BulkPresentationStats) (requestedAccounts requestedAssets : ℕ) :
    BalanceSummaryPayload where
  requestedAccounts := requestedAccounts
  requestedAssets := requestedAssets
  requestedResolutionItems := saturatingMul requestedAccounts requestedAssets
  positionsReturned := stats.positionsReturned
  skippedItems := stats.skippedItems
  failedItems := stats.failedBalanceItems

end BulkPresentationStats

def single (result : GetBalancesResult) :
    Except BalancesResponsePresenterError SingleBalanceResponse :=
  match result.accounts with
  | [account] =>
    let payload := (presentAccount account).payload
    .ok {
      ok := true
      responseType := "balances"
      status := payload.status
      asOf := presentAsOf result.asOf payload.evidence
      quoteCurrency := result.quoteCurrency
      account := payload.account
      evidence := payload.evidence
      positions := payload.positions
      skipped := payload.skipped
      errors := payload.errors }
  | _ => .error .expectedSingleAccount

def bulk (result : GetBalancesResult) : BulkBalanceResponse :=
  let accounts := result.accounts.map presentAccount
  let stats := BulkPresentationStats.fromAccounts accounts
  { ok := true
    responseType := "balances_bulk"
    status := stats.status
    asOf := presentAsOf result.asOf none
    quoteCurrency := result.quoteCurrency
    summary := stats.summary result.accounts.length result.requestedTokenCount
    accounts := accounts.map (·.payload)
    errors := [] }

/-! ### Item by item -/

def isSkipped : BalanceItemOutcome → Bool
  | .skipped _ _ => true
  | _ => false

def isResolved : BalanceItemOutcome → Bool
  | .resolved _ _ _ _ => true
  | _ => false

def isFailed : BalanceItemOutcome → Bool
  | .failed _ _ => true
  | _ => false

/-- The item is resolved, and its quote is available. -/
def isQuoted : BalanceItemOutcome → Bool
  | .resolved _ _ _ (.available _ _ _ _) => true
  | _ => false

/-- The item failed, or it is resolved with a quote that is unavailable. -/
def isErroneous : BalanceItemOutcome → Bool
  | .failed _ _ | .resolved _ _ _ (.unavailable _) => true
  | _ => false

def positionOf : BalanceItemOutcome → Option BalancePositionPayload
  | .resolved target rawAmount amount quote =>
    some (positionPayload target rawAmount amount (presentQuote target quote).1)
  | _ => none

def skippedOf : BalanceItemOutcome → Option BalanceSkippedPayload
  | .skipped networkSlug assetSlug =>
    some ⟨networkSlug, assetSlug, "asset_not_supported_on_network"⟩
  | _ => none

def errorOf : BalanceItemOutcome → Option BalanceErrorPayload
  | .failed target code | .resolved target _ _ (.unavailable code) =>
    some (errorPayload target code)
  | _ => none

/-- The counters of some items. -/
def countItems (items : List BalanceItemOutcome) : AccountPresentationStats where
  supportedBalanceItems := items.countP fun item => !isSkipped item
  resolvedBalanceItems := items.countP isResolved
  failedBalanceItems := items.countP isFailed
  degradedQuote := items.any fun item => isResolved item && !isQuoted item

lemma presentItem_eq (presented : Presented) (item : BalanceItemOutcome) :
    presentItem presented item = {
      positions := presented.positions ++ (positionOf item).toList
      skipped := presented.skipped ++ (skippedOf item).toList
      errors := presented.errors ++ (errorOf item).toList
      stats :=
        { supportedBalanceItems := presented.stats.supportedBalanceItems +
            if !isSkipped item then 1 else 0
          resolvedBalanceItems := presented.stats.resolvedBalanceItems +
            if isResolved item then 1 else 0
          failedBalanceItems := presented.stats.failedBalanceItems + if isFailed item then 1 else 0
          degradedQuote := presented.stats.degradedQuote ||
            (isResolved item && !isQuoted item) } } := by
  rcases item with ⟨target, rawAmount, amount, _ | _ | _⟩ | _ | _ <;>
    simp [presentItem, presentQuote, positionOf, skippedOf, errorOf, isSkipped, isResolved,
      isFailed, isQuoted, AccountPresentationStats.recordResolved,
      AccountPresentationStats.recordFailed]

/-- The pass sorts and counts the items, in their order. -/
lemma foldl_presentItem (presented : Presented) (items : List BalanceItemOutcome) :
    items.foldl presentItem presented = {
      positions := presented.positions ++ items.filterMap positionOf
      skipped := presented.skipped ++ items.filterMap skippedOf
      errors := presented.errors ++ items.filterMap errorOf
      stats :=
        { supportedBalanceItems := presented.stats.supportedBalanceItems +
            (countItems items).supportedBalanceItems
          resolvedBalanceItems := presented.stats.resolvedBalanceItems +
            (countItems items).resolvedBalanceItems
          failedBalanceItems := presented.stats.failedBalanceItems +
            (countItems items).failedBalanceItems
          degradedQuote :=
            presented.stats.degradedQuote || (countItems items).degradedQuote } } := by
  induction items generalizing presented with
  | nil => simp [countItems]
  | cons item items ih =>
    have hfilterMap {α : Type} (f : BalanceItemOutcome → Option α) :
        (item :: items).filterMap f = (f item).toList ++ items.filterMap f := by
      cases h : f item <;> simp [h]
    rw [List.foldl_cons, ih, presentItem_eq]
    simp only [hfilterMap, countItems, List.countP_cons, List.any_cons, List.append_assoc,
      Bool.or_assoc, Nat.add_assoc, Nat.add_comm (List.countP _ items)]

lemma presentAccount_eq (account : BalancesAccountResult) : presentAccount account = {
    payload :=
      { status := (countItems account.items).status
        account := accountIdentity account.account
        evidence := account.evidence.map evidencePayload
        positions := account.items.filterMap positionOf
        skipped := account.items.filterMap skippedOf
        errors := account.items.filterMap errorOf }
    stats := countItems account.items } := by
  simp [presentAccount, foldl_presentItem]

lemma countP_supported (items : List BalanceItemOutcome) :
    (items.countP fun item => !isSkipped item) =
      items.countP isResolved + items.countP isFailed := by
  induction items with
  | nil => rfl
  | cons item items ih =>
    have hone : (if !isSkipped item then 1 else 0) =
        (if isResolved item then 1 else 0) + if isFailed item then 1 else 0 := by
      cases item <;> rfl
    simp only [List.countP_cons, ih, hone]
    omega

lemma length_positions (items : List BalanceItemOutcome) :
    (items.filterMap positionOf).length = items.countP isResolved := by
  rw [List.length_filterMap_eq_countP]
  refine List.countP_congr fun item _ => ?_
  cases item <;> simp [positionOf, isResolved]

lemma length_skipped (items : List BalanceItemOutcome) :
    (items.filterMap skippedOf).length = items.countP isSkipped := by
  rw [List.length_filterMap_eq_countP]
  refine List.countP_congr fun item _ => ?_
  cases item <;> simp [skippedOf, isSkipped]

lemma length_errors (items : List BalanceItemOutcome) :
    (items.filterMap errorOf).length = items.countP isErroneous := by
  rw [List.length_filterMap_eq_countP]
  refine List.countP_congr fun item _ => ?_
  rcases item with ⟨_, _, _, _ | _ | _⟩ | _ | _ <;> simp [errorOf, isErroneous]

lemma length_eq (items : List BalanceItemOutcome) :
    (items.filterMap positionOf).length + (items.filterMap skippedOf).length +
      (countItems items).failedBalanceItems = items.length := by
  have hlength := List.length_eq_countP_add_countP isSkipped (l := items)
  have hsupported := countP_supported items
  simp only [Bool.not_eq_true, Bool.decide_eq_false] at hlength
  simp only [length_positions, length_skipped, countItems]
  omega

/-! ### Statuses -/

lemma isResolved_of_isQuoted {item : BalanceItemOutcome} (h : isQuoted item = true) :
    isResolved item = true := by
  rcases item with ⟨_, _, _, _ | _ | _⟩ | _ | _ <;> simp_all [isQuoted, isResolved]

lemma isResolved_or_isFailed {item : BalanceItemOutcome} (h : isSkipped item = false) :
    isResolved item = true ∨ isFailed item = true := by
  cases item <;> simp_all [isSkipped, isResolved, isFailed]

lemma not_isSkipped_of_isResolved {item : BalanceItemOutcome} (h : isResolved item = true) :
    isSkipped item = false := by
  cases item <;> simp_all [isSkipped, isResolved]

/-- **When an account is complete**: whatever is not skipped is resolved and quoted. -/
lemma status_complete_iff (items : List BalanceItemOutcome) :
    (countItems items).status = .complete ↔
      ∀ item ∈ items, isSkipped item = false → isQuoted item = true := by
  simp only [AccountPresentationStats.status, countItems, List.countP_eq_zero, gt_iff_lt,
    List.countP_pos_iff, List.any_eq_true, Bool.not_eq_true', Bool.not_eq_false, Bool.and_eq_true]
  split_ifs with hskipped hresolved hdegraded
  · simp only [true_iff]
    intro item hitem hnot
    rw [hskipped item hitem] at hnot
    cases hnot
  · simp only [false_iff]
    intro hall
    obtain ⟨item, hitem, hnot⟩ : ∃ item ∈ items, isSkipped item = false := by
      simpa using hskipped
    exact hresolved item hitem (isResolved_of_isQuoted (hall item hitem hnot))
  · simp only [false_iff]
    intro hall
    rcases hdegraded with ⟨item, hitem, hfailed⟩ | ⟨item, hitem, hresolved, hunquoted⟩
    · have hnot : isSkipped item = false := by cases item <;> simp_all [isSkipped, isFailed]
      have := isResolved_of_isQuoted (hall item hitem hnot)
      cases item <;> simp_all [isResolved, isFailed]
    · have := hall item hitem (not_isSkipped_of_isResolved hresolved)
      rw [hunquoted] at this
      cases this
  · simp only [true_iff]
    intro item hitem hnot
    simp only [not_or, not_exists, not_and, Bool.not_eq_true, Bool.not_eq_false] at hdegraded
    rcases isResolved_or_isFailed hnot with h | h
    · exact hdegraded.2 item hitem h
    · rw [hdegraded.1 item hitem] at h
      cases h

lemma failed_iff_counts {supported resolved : ℕ} {degraded : Prop} [Decidable degraded] :
    (if supported = 0 then BalanceResponseStatus.complete
      else if resolved = 0 then .failed
      else if degraded then .partially
      else .complete) = .failed ↔ supported ≠ 0 ∧ resolved = 0 := by
  split_ifs <;> simp_all

lemma countP_facts (items : List BalanceItemOutcome) :
    ((items.countP fun item => !isSkipped item) ≠ 0 ∧ items.countP isResolved = 0) ↔
      (∃ item ∈ items, isSkipped item = false) ∧ ∀ item ∈ items, isResolved item = false := by
  simp [List.countP_eq_zero]

/-- **When an account failed**: something is not skipped and nothing is resolved. -/
lemma status_failed_iff (items : List BalanceItemOutcome) :
    (countItems items).status = .failed ↔
      (∃ item ∈ items, isSkipped item = false) ∧ ∀ item ∈ items, isResolved item = false := by
  rw [← countP_facts, AccountPresentationStats.status, failed_iff_counts, countItems]

/-- All items of a result, account after account. -/
def allItems (result : GetBalancesResult) : List BalanceItemOutcome :=
  result.accounts.flatMap (·.items)

lemma foldl_addAccount (stats : BulkPresentationStats) (accounts : List PresentedAccount) :
    accounts.foldl BulkPresentationStats.addAccount stats = {
      supportedBalanceItems := stats.supportedBalanceItems +
        (accounts.map (·.stats.supportedBalanceItems)).sum
      resolvedBalanceItems := stats.resolvedBalanceItems +
        (accounts.map (·.stats.resolvedBalanceItems)).sum
      failedBalanceItems := stats.failedBalanceItems +
        (accounts.map (·.stats.failedBalanceItems)).sum
      positionsReturned := stats.positionsReturned +
        (accounts.map (·.payload.positions.length)).sum
      skippedItems := stats.skippedItems + (accounts.map (·.payload.skipped.length)).sum
      hasDegradedAccount := stats.hasDegradedAccount ||
        accounts.any fun account => account.payload.status ≠ .complete } := by
  induction accounts generalizing stats with
  | nil => simp
  | cons account accounts ih =>
    rw [List.foldl_cons, ih]
    simp only [BulkPresentationStats.addAccount, List.map_cons, List.sum_cons, List.any_cons,
      Nat.add_assoc, Bool.or_assoc]

/-- The counters of a bulk response are those of all items together. -/
lemma fromAccounts_eq (result : GetBalancesResult) :
    BulkPresentationStats.fromAccounts (result.accounts.map presentAccount) = {
      supportedBalanceItems := (countItems (allItems result)).supportedBalanceItems
      resolvedBalanceItems := (countItems (allItems result)).resolvedBalanceItems
      failedBalanceItems := (countItems (allItems result)).failedBalanceItems
      positionsReturned := ((allItems result).filterMap positionOf).length
      skippedItems := ((allItems result).filterMap skippedOf).length
      hasDegradedAccount := result.accounts.any fun account =>
        (presentAccount account).payload.status ≠ .complete } := by
  rw [BulkPresentationStats.fromAccounts, foldl_addAccount]
  simp only [List.map_map, Function.comp_def, presentAccount_eq, countItems, allItems,
    List.countP_flatMap, length_positions, length_skipped, Nat.zero_add, Bool.false_or,
    List.any_map]

section

variable (result : GetBalancesResult)

lemma bulk_accounts : (bulk result).accounts =
    result.accounts.map fun account => (presentAccount account).payload := by
  simp [bulk]

lemma bulk_failed_iff : (bulk result).status = .failed ↔
    (∃ item ∈ allItems result, isSkipped item = false) ∧
      ∀ item ∈ allItems result, isResolved item = false := by
  rw [← countP_facts, bulk]
  simp only [fromAccounts_eq, BulkPresentationStats.status, countItems]
  exact failed_iff_counts

lemma bulk_complete_iff : (bulk result).status = .complete ↔
    ∀ payload ∈ (bulk result).accounts, payload.status = .complete := by
  rw [bulk_accounts]
  simp only [bulk, fromAccounts_eq, BulkPresentationStats.status, countItems, List.countP_eq_zero,
    Bool.not_eq_true', Bool.not_eq_false, List.any_eq_true, decide_eq_true_eq, List.mem_map,
    forall_exists_index, and_imp, forall_apply_eq_imp_iff₂]
  -- an account with an item that is not skipped is complete only if something is resolved
  have hresolved (hall : ∀ account ∈ result.accounts,
      (presentAccount account).payload.status = .complete) {item : BalanceItemOutcome}
      (hitem : item ∈ allItems result) (hnot : isSkipped item = false) :
      isResolved item = true := by
    obtain ⟨account, haccount, hmem⟩ := List.mem_flatMap.mp hitem
    have hcomplete := hall account haccount
    rw [presentAccount_eq] at hcomplete
    exact isResolved_of_isQuoted ((status_complete_iff _).mp hcomplete item hmem hnot)
  split_ifs with hskipped hnone hdegraded
  · simp only [true_iff]
    intro account haccount
    rw [presentAccount_eq]
    refine (status_complete_iff _).mpr fun item hmem hnot => ?_
    rw [hskipped item (List.mem_flatMap.mpr ⟨account, haccount, hmem⟩)] at hnot
    cases hnot
  · simp only [false_iff]
    intro hall
    obtain ⟨item, hitem, hnot⟩ : ∃ item ∈ allItems result, isSkipped item = false := by
      simpa using hskipped
    exact hnone item hitem (hresolved hall hitem hnot)
  · simp only [false_iff]
    intro hall
    obtain ⟨account, haccount, hstatus⟩ := hdegraded
    exact hstatus (hall account haccount)
  · simp only [true_iff]
    intro account haccount
    by_contra hstatus
    exact hdegraded ⟨account, haccount, hstatus⟩

/-- The bulk response and the response of its only account have one status. -/
lemma bulk_status_single {account : BalancesAccountResult} (h : result.accounts = [account]) :
    (bulk result).status = (presentAccount account).payload.status := by
  have hcomplete := bulk_complete_iff result
  have hfailed := bulk_failed_iff result
  have hitems : allItems result = account.items := by simp [allItems, h]
  rw [bulk_accounts, h] at hcomplete
  simp only [List.map_cons, List.map_nil, List.mem_singleton, forall_eq] at hcomplete
  rw [hitems, ← status_failed_iff] at hfailed
  have hstatus : (presentAccount account).payload.status = (countItems account.items).status := by
    rw [presentAccount_eq]
  rw [← hstatus] at hfailed
  revert hcomplete hfailed
  cases (bulk result).status <;> cases (presentAccount account).payload.status <;> simp

end

/-- A result as the machine holds it: every item is at an address of its own. -/
structure HeldResult extends GetBalancesResult where
  addressable : (accounts.flatMap (·.items)).length ≤ USIZE_MAX

/-! ### What is shown of an item -/

/-- The fields name the target: its selector as it was requested, its network, the contract if it
is one, and its asset. -/
structure Names (target : ResolvedBalanceTarget) (selector : BalanceSelectorPayload)
    (networkSlug : String) (contractAddress assetSlug : Option String) : Prop where
  selector : match target.selector with
    | .assetSlug slug => selector.kind = "asset_slug" ∧ selector.value = slug
    | .contractAddress address => selector.kind = "contract_address" ∧ selector.value = address
  network : networkSlug = target.networkSlug
  contract : ∀ address, contractAddress = some address ↔ target.kind = .erc20 address
  asset : assetSlug = target.assetSlug

def ShowsQuote (quote : BalanceQuoteOutcome) (payload : BalanceQuotePayload) : Prop :=
  match quote with
  | .available currency unitPrice value priceAsOf =>
    payload.status = .available ∧ payload.currency = some currency ∧
      payload.unitPrice = some unitPrice ∧ payload.value = some value ∧
      payload.priceAsOf = some priceAsOf
  | .unavailable _ =>
    payload.status = .unavailable ∧ payload.currency = none ∧ payload.unitPrice = none ∧
      payload.value = none ∧ payload.priceAsOf = none
  | .unsupported =>
    payload.status = .unsupported ∧ payload.currency = none ∧ payload.unitPrice = none ∧
      payload.value = none ∧ payload.priceAsOf = none

/-- A position shows the balance of a resolved item, and its quote. -/
def ShowsPosition (item : BalanceItemOutcome) (position : BalancePositionPayload) : Prop :=
  ∃ target rawAmount amount quote, item = .resolved target rawAmount amount quote ∧
    Names target position.selector position.networkSlug position.contractAddress
      position.assetSlug ∧
    position.symbol = target.symbol ∧ position.balance.rawAmount = rawAmount ∧
    position.balance.amount = amount ∧ position.balance.decimals = target.decimals ∧
    ShowsQuote quote position.quote

def ShowsSkipped (item : BalanceItemOutcome) (skipped : BalanceSkippedPayload) : Prop :=
  item = .skipped skipped.networkSlug skipped.assetSlug ∧
    skipped.reason = "asset_not_supported_on_network"

/-- An error shows the target of an item that failed, or whose quote is unavailable, and why. -/
def ShowsError (item : BalanceItemOutcome) (error : BalanceErrorPayload) : Prop :=
  ∃ target code, (item = .failed target code ∨
      ∃ rawAmount amount, item = .resolved target rawAmount amount (.unavailable code)) ∧
    Names target error.selector error.networkSlug error.contractAddress error.assetSlug ∧
    (error.code, error.message) = errorText code

lemma names_target (target : ResolvedBalanceTarget) :
    Names target (selectorPayload target.selector) target.networkSlug (contractAddress target)
      target.assetSlug where
  selector := by cases target.selector <;> exact ⟨rfl, rfl⟩
  network := rfl
  contract := by cases hkind : target.kind <;> simp [contractAddress, hkind]
  asset := rfl

lemma showsQuote_presentQuote (target : ResolvedBalanceTarget) (quote : BalanceQuoteOutcome) :
    ShowsQuote quote (presentQuote target quote).1 := by
  cases quote <;> exact ⟨rfl, rfl, rfl, rfl, rfl⟩

lemma forall₂_filterMap {α β : Type} {R : α → β → Prop} {keep : α → Bool} {f : α → Option β}
    (hkeep : ∀ a, keep a = true → ∃ b, f a = some b ∧ R a b)
    (hdrop : ∀ a, keep a = false → f a = none) (as : List α) :
    List.Forall₂ R (as.filter keep) (as.filterMap f) := by
  induction as with
  | nil => exact .nil
  | cons a as ih =>
    cases hka : keep a with
    | true =>
      obtain ⟨b, hb, hR⟩ := hkeep a hka
      rw [List.filter_cons_of_pos hka, List.filterMap_cons_some hb]
      exact .cons hR ih
    | false =>
      rw [List.filter_cons_of_neg (by simp [hka]), List.filterMap_cons_none (hdrop a hka)]
      exact ih

lemma positions_show (items : List BalanceItemOutcome) :
    List.Forall₂ ShowsPosition (items.filter isResolved) (items.filterMap positionOf) := by
  refine forall₂_filterMap (fun item hitem => ?_) (fun item hitem => ?_) items
  · cases item with
    | resolved target rawAmount amount quote =>
      exact ⟨_, rfl, target, rawAmount, amount, quote, rfl, names_target target, rfl, rfl, rfl, rfl,
        showsQuote_presentQuote target quote⟩
    | skipped | failed => cases hitem
  · cases item with
    | resolved => cases hitem
    | skipped | failed => rfl

lemma skipped_show (items : List BalanceItemOutcome) :
    List.Forall₂ ShowsSkipped (items.filter isSkipped) (items.filterMap skippedOf) := by
  refine forall₂_filterMap (fun item hitem => ?_) (fun item hitem => ?_) items
  · cases item with
    | skipped networkSlug assetSlug => exact ⟨_, rfl, rfl, rfl⟩
    | resolved | failed => cases hitem
  · cases item with
    | skipped => cases hitem
    | resolved | failed => rfl

lemma errors_show (items : List BalanceItemOutcome) :
    List.Forall₂ ShowsError (items.filter isErroneous) (items.filterMap errorOf) := by
  refine forall₂_filterMap (fun item hitem => ?_) (fun item hitem => ?_) items
  · rcases item with ⟨target, rawAmount, amount, _ | code | _⟩ | _ | ⟨target, code⟩
    · cases hitem
    · exact ⟨_, rfl, target, code, .inr ⟨rawAmount, amount, rfl⟩, names_target target, rfl⟩
    · cases hitem
    · cases hitem
    · exact ⟨_, rfl, target, code, .inl rfl, names_target target, rfl⟩
  · rcases item with ⟨target, rawAmount, amount, _ | code | _⟩ | _ | ⟨target, code⟩
    · rfl
    · cases hitem
    · rfl
    · rfl
    · cases hitem

/-- What the payload of an account says of its items: it shows each resolved item as a position,
each skipped one as such, and an error for each that has one, in the order of the items. -/
structure PresentsItems (account : BalancesAccountResult) (payload : BalanceAccountPayload) :
    Prop where
  positions : List.Forall₂ ShowsPosition (account.items.filter isResolved) payload.positions
  skipped : List.Forall₂ ShowsSkipped (account.items.filter isSkipped) payload.skipped
  errors : List.Forall₂ ShowsError (account.items.filter isErroneous) payload.errors
  errorCount : payload.errors.length = account.items.countP isErroneous
  complete : payload.status = .complete ↔
    ∀ item ∈ account.items, isSkipped item = false → isQuoted item = true

/-- The response for one account says what the payload of the account says. -/
structure SaysSame (response : SingleBalanceResponse) (payload : BalanceAccountPayload) : Prop where
  status : response.status = payload.status
  account : response.account = payload.account
  evidence : response.evidence = payload.evidence
  positions : response.positions = payload.positions
  skipped : response.skipped = payload.skipped
  errors : response.errors = payload.errors

/-- Every requested item is accounted for in the responses. -/
structure AccountsForItems (result : GetBalancesResult) : Prop where
  total : (bulk result).summary.positionsReturned + (bulk result).summary.skippedItems +
    (bulk result).summary.failedItems = (bulk result).summary.requestedResolutionItems
  payloads : List.Forall₂ PresentsItems result.accounts (bulk result).accounts
  complete : (bulk result).status = .complete ↔
    ∀ payload ∈ (bulk result).accounts, payload.status = .complete
  failed : (bulk result).status = .failed ↔
    (∃ item ∈ allItems result, isSkipped item = false) ∧
      ∀ item ∈ allItems result, isResolved item = false
  partially : (bulk result).status = .partially ↔
    ¬(bulk result).status = .complete ∧ ¬(bulk result).status = .failed
  single : result.accounts.length = 1 → ∃ response payload, single result = .ok response ∧
    (bulk result).accounts = [payload] ∧ SaysSame response payload ∧
    (bulk result).status = payload.status

lemma sum_items {accounts : List BalancesAccountResult} {count : ℕ}
    (h : ∀ account ∈ accounts, account.items.length = count) :
    (accounts.flatMap (·.items)).length = accounts.length * count := by
  rw [List.length_flatMap, List.map_congr_left h, List.map_const', List.sum_replicate_nat]

/-- **Balance responses account for every requested item**, wherever each account has as many
items as were requested. -/
theorem accountsForItems (result : HeldResult)
    (h : ∀ account ∈ result.accounts, account.items.length = result.requestedTokenCount) :
    AccountsForItems result.toGetBalancesResult where
  total := by
    have hlength := length_eq (allItems result.toGetBalancesResult)
    have hsum := sum_items h
    have hheld := result.addressable
    simp only [bulk, fromAccounts_eq, BulkPresentationStats.summary, saturatingMul]
    rw [hlength, min_eq_left (by omega)]
    exact hsum
  payloads := by
    rw [bulk_accounts, List.forall₂_map_right_iff]
    refine List.forall₂_same.mpr fun account _ => ?_
    rw [presentAccount_eq]
    exact ⟨positions_show _, skipped_show _, errors_show _, length_errors _,
      status_complete_iff _⟩
  complete := bulk_complete_iff _
  failed := bulk_failed_iff _
  partially := by
    cases (bulk result.toGetBalancesResult).status <;> simp
  single := by
    intro hone
    obtain ⟨account, haccount⟩ := List.length_eq_one_iff.mp hone
    have hresponse : ∃ response, single result.toGetBalancesResult = .ok response ∧
        SaysSame response (presentAccount account).payload := by
      unfold single
      rw [haccount]
      exact ⟨_, rfl, rfl, rfl, rfl, rfl, rfl, rfl⟩
    obtain ⟨response, hresponse, hsame⟩ := hresponse
    refine ⟨response, (presentAccount account).payload, hresponse, ?_, hsame,
      bulk_status_single _ haccount⟩
    rw [bulk_accounts, haccount]
    rfl

/-- A target of the sample. -/
def sampleTarget (assetSlug : String) : ResolvedBalanceTarget where
  selector := .assetSlug assetSlug
  networkSlug := "eth-mainnet"
  chainId := 1
  assetSlug := some assetSlug
  symbol := none
  name := none
  decimals := some 18
  pricingAssetSlug := some assetSlug
  kind := .native

/-- One account with an item of each kind, and one with nothing but skipped items. -/
def sampleResult : HeldResult where
  asOf := .latest
  quoteCurrency := "USD"
  requestedTokenCount := 3
  accounts := [
    ⟨⟨"eth-mainnet", "0x0000000000000000000000000000000000000001", none⟩, none,
      [.resolved (sampleTarget "ethereum") "1" (some "0.000000000000000001") .unsupported,
        .skipped "eth-mainnet" "bitcoin", .failed (sampleTarget "weth") .internalError]⟩,
    ⟨⟨"base", "0x0000000000000000000000000000000000000002", some "cold"⟩, none,
      [.skipped "base" "ethereum", .skipped "base" "bitcoin", .skipped "base" "weth"]⟩]
  addressable := by decide

theorem accountsForItems_sample :
    (bulk sampleResult.toGetBalancesResult).status = .partially ∧
      AccountsForItems sampleResult.toGetBalancesResult :=
  ⟨by decide, accountsForItems sampleResult (by decide)⟩

end MotherApi.BalancePresenter
