import MotherApi.BalanceResponse

/-!
Resolving a balance request.

Every group of accounts is asked for in one call; the calls run at the same time and end in any
order. What comes back is put under the accounts it is for, in the order of the request, and
amounts are given their decimals and their value.
-/

namespace MotherApi.BalanceService

open MotherApi.Lib.Fallible MotherApi.Strings MotherApi.Registry MotherApi.BalanceCommand
open MotherApi.BalanceTargets MotherApi.BalancePlan MotherApi.BalanceResponse MotherApi.Decimal

inductive BalanceItemErrorCode
  | balanceResolutionFailed
  | balanceProviderUnavailable
  | priceResolutionFailed
  | priceProviderUnavailable
  | internalError
  deriving DecidableEq

inductive RawBalanceItemOutcome
  | resolved (target : ResolvedBalanceTarget) (rawAmount : String)
  | skipped (networkSlug assetSlug : String)
  | failed (target : ResolvedBalanceTarget) (code : BalanceItemErrorCode)
  deriving DecidableEq

structure RawBalancesAccountResult where
  account : OnchainAccount
  evidence : Option BalanceEvidence
  items : List RawBalanceItemOutcome
  deriving DecidableEq

inductive BalanceQuoteOutcome
  | available (currency unitPrice value priceAsOf : String)
  | unavailable (code : BalanceItemErrorCode)
  | unsupported
  deriving DecidableEq

inductive BalanceItemOutcome
  | resolved (target : ResolvedBalanceTarget) (rawAmount : String) (amount : Option String)
    (quote : BalanceQuoteOutcome)
  | skipped (networkSlug assetSlug : String)
  | failed (target : ResolvedBalanceTarget) (code : BalanceItemErrorCode)
  deriving DecidableEq

structure BalancesAccountResult where
  account : OnchainAccount
  evidence : Option BalanceEvidence
  items : List BalanceItemOutcome
  deriving DecidableEq

structure GetBalancesResult where
  asOf : AsOf
  quoteCurrency : String
  requestedTokenCount : ℕ
  accounts : List BalancesAccountResult
  deriving DecidableEq

inductive BigwigRequestValidationCode
  | malformedBody | emptyAccounts | emptyTargets | invalidAccount | duplicateAccount
  | invalidTarget | duplicateTarget | requestTooLarge
  deriving DecidableEq

inductive BigwigError
  | transport | timeout | invalidExtractionRequest | unauthorized | unsupportedNetwork
  | networkNotEnabledForOperation | noRouteSatisfiesOperation
  | rateLimited (retryAfterSeconds : Option ℕ)
  | invalidAddress | invalidContractAddress | invalidDirection | invalidWindowShape | invalidAsOf
  | reversedBlockRange | blockOutOfRange | reversedTimestampRange | timestampAnchorNotConfigured
  | timestampOutOfRange | lookbackTooLarge | rangeTooLarge | tooManyContractAddresses | rpcError
  | providerUnavailable (retryAfterSeconds : Option ℕ)
  | providerTimeout | extractionTimeout | internalError
  | requestValidation (code : BigwigRequestValidationCode)
  | malformedSuccessResponse | malformedErrorResponse
  | unexpectedSuccessStatus (status : ℕ)
  | unexpectedErrorResponse (status : ℕ)
  deriving DecidableEq

def mapBigwigError : BigwigError → BalanceItemErrorCode
  | .unsupportedNetwork | .networkNotEnabledForOperation | .noRouteSatisfiesOperation
  | .blockOutOfRange | .timestampAnchorNotConfigured | .timestampOutOfRange | .rpcError =>
    .balanceResolutionFailed
  | .transport | .timeout | .unauthorized | .rateLimited _ | .providerUnavailable _
  | .extractionTimeout | .providerTimeout | .internalError => .balanceProviderUnavailable
  | .invalidExtractionRequest | .invalidAddress | .invalidContractAddress | .invalidDirection
  | .invalidWindowShape | .invalidAsOf | .reversedBlockRange | .reversedTimestampRange
  | .lookbackTooLarge | .rangeTooLarge | .tooManyContractAddresses | .requestValidation _
  | .malformedSuccessResponse | .malformedErrorResponse | .unexpectedSuccessStatus _
  | .unexpectedErrorResponse _ => .internalError

/-! ### Answers under their accounts -/

abbrev Service := Except (Halt BalanceSnapshotServiceError)

inductive GroupExecution
  | skippedOnly
  | failed (code : BalanceItemErrorCode)
  | called (response : Except BigwigError BigwigResponse)

/-- The outcome of one token plan for the account at a position of the group. -/
def rawItem (plan : NetworkGroupPlan) (validated : Option ValidatedGroup)
    (groupAccountIndex : ℕ) : TokenPlan → Service RawBalanceItemOutcome
  | .skipped networkSlug assetSlug => return .skipped networkSlug assetSlug
  | .supported targetIndex target => do
    let validated ← expect validated
    let outcomeIndex := groupAccountIndex * plan.targets.length + targetIndex
    match ← expect validated.targetOutcomes[outcomeIndex]? with
    | .resolved rawAmount => return .resolved target rawAmount
    | .failed => return .failed target .balanceResolutionFailed

def accountResults (plan : NetworkGroupPlan) (validated : Option ValidatedGroup) :
    Service (List (ℕ × RawBalancesAccountResult)) :=
  plan.accounts.zipIdx.mapM fun (groupAccount, groupAccountIndex) => do
    let items ← plan.tokenPlans.mapM (rawItem plan validated groupAccountIndex)
    return (groupAccount.originalIndex,
      ⟨groupAccount.account, validated.map (·.evidence), items⟩)

def failedItem (code : BalanceItemErrorCode) : TokenPlan → RawBalanceItemOutcome
  | .supported _ target => .failed target code
  | .skipped networkSlug assetSlug => .skipped networkSlug assetSlug

def failedGroupResults (plan : NetworkGroupPlan) (code : BalanceItemErrorCode) :
    List (ℕ × RawBalancesAccountResult) :=
  plan.accounts.map fun groupAccount =>
    (groupAccount.originalIndex,
      ⟨groupAccount.account, none, plan.tokenPlans.map (failedItem code)⟩)

def assembleGroupResults (plan : NetworkGroupPlan) :
    GroupExecution → Service (List (ℕ × RawBalancesAccountResult))
  | .skippedOnly => accountResults plan none
  | .failed code => return failedGroupResults plan code
  | .called (.error error) => return failedGroupResults plan (mapBigwigError error)
  | .called (.ok response) =>
    match validateResponse plan response with
    | .ok validated => accountResults plan (some validated)
    | .error (.error _) => return failedGroupResults plan .internalError
    | .error .panic => .error .panic

/-! ### Amounts and values -/

inductive PriceQuoteResolution
  | available (unitPrice quoteCurrency priceAsOf : String)
  | unavailable
  | unsupported
  deriving DecidableEq

inductive PriceQuoteError
  | providerUnavailable | internalError
  deriving DecidableEq

abbrev Quotes := Except PriceQuoteError (String → Option PriceQuoteResolution)

def normalizePricingAssetSlug (pricingAssetSlug : String) : String :=
  toAsciiLowercase (trim pricingAssetSlug)

def pricingSlug : RawBalanceItemOutcome → Option String
  | .resolved target _ => target.pricingAssetSlug.map normalizePricingAssetSlug
  | _ => none

/-- Each slug once, where it is met first. -/
def collectPricingAssetSlugs (accounts : List RawBalancesAccountResult) : List String :=
  (accounts.flatMap fun account => account.items.filterMap pricingSlug).eraseDups

def enrichQuote (quote : PriceQuoteResolution) (rawAmount : String) (decimals : ℕ) :
    Service BalanceQuoteOutcome :=
  match quote with
  | .available unitPrice quoteCurrency priceAsOf =>
    match multiplyAmountByPrice rawAmount decimals unitPrice with
    | .ok value => return .available quoteCurrency unitPrice value priceAsOf
    | .error (.error _) => return .unavailable .internalError
    | .error .panic => .error .panic
  | .unavailable => return .unavailable .priceResolutionFailed
  | .unsupported => return .unsupported

def quoteFor (quotes : Quotes) (target : ResolvedBalanceTarget) (rawAmount : String) :
    Service BalanceQuoteOutcome :=
  match target.pricingAssetSlug, target.decimals with
  | some pricingAssetSlug, some decimals =>
    match quotes with
    | .ok quotes =>
      match quotes (normalizePricingAssetSlug pricingAssetSlug) with
      | some quote => enrichQuote quote rawAmount decimals
      | none => return .unavailable .priceResolutionFailed
    | .error .providerUnavailable => return .unavailable .priceProviderUnavailable
    | .error .internalError => return .unavailable .internalError
  | _, _ => return .unsupported

/-- A balance without decimals has no amount; one with decimals must format. -/
def amountFor (target : ResolvedBalanceTarget) (rawAmount : String) : Service (Option String) :=
  match target.decimals with
  | none => return none
  | some decimals => do
    let amount ← expect (formatAmount rawAmount decimals).toOption
    return some amount

def enrichItem (quotes : Quotes) : RawBalanceItemOutcome → Service BalanceItemOutcome
  | .resolved target rawAmount => do
    let amount ← amountFor target rawAmount
    let quote ← quoteFor quotes target rawAmount
    return .resolved target rawAmount amount quote
  | .skipped networkSlug assetSlug => return .skipped networkSlug assetSlug
  | .failed target code => return .failed target code

def enrichAccountResults (accounts : List RawBalancesAccountResult) (quotes : Quotes) :
    Service (List BalancesAccountResult) :=
  accounts.mapM fun account => do
    let items ← account.items.mapM (enrichItem quotes)
    return ⟨account.account, account.evidence, items⟩

/-! ### The service -/

/-- How the task of a call ends. -/
inductive Joined
  | failed
  | finished (response : Except BigwigError BigwigResponse)

/-- What the service runs against: the client, if one is configured, with an answer for every
request; the order in which the calls end; and the reader of prices. -/
structure Environment where
  client : Option (BigwigRequest → Joined)
  completion : List (ℕ × Joined) → List (ℕ × Joined)
  completion_perm : ∀ calls, (completion calls).Perm calls
  priceQuoteReader : Option (List String → String → Quotes)

/-- What is known of a group before any call ends. -/
def initialExecution (env : Environment) (plan : NetworkGroupPlan) : Option GroupExecution :=
  if plan.targets.isEmpty then some .skippedOnly
  else
    match env.client with
    | none => some (.failed .balanceProviderUnavailable)
    | some _ => none

/-- The call of a group, if there is one, with the index of the group. -/
def spawn (env : Environment) : NetworkGroupPlan × ℕ → Option (ℕ × Joined)
  | (plan, groupIndex) =>
    if plan.targets.isEmpty then none
    else env.client.map fun client => (groupIndex, client (bigwigRequest plan))

def joinNext (executions : List (Option GroupExecution)) :
    ℕ × Joined → Service (List (Option GroupExecution))
  | (_, .failed) => fail .executionTaskFailed
  | (groupIndex, .finished response) => setAt executions groupIndex (some (.called response))

def placeGroup (results : List (Option RawBalancesAccountResult)) :
    NetworkGroupPlan × Option GroupExecution → Service (List (Option RawBalancesAccountResult))
  | (plan, execution) => do
    let groupResults ← assembleGroupResults plan (← expect execution)
    groupResults.foldlM (fun results (accountIndex, result) =>
      setAt results accountIndex (some result)) results

def latestQuotes (env : Environment) (request : GetBalancesCommand)
    (accounts : List RawBalancesAccountResult) : Quotes :=
  let pricingAssetSlugs := collectPricingAssetSlugs accounts
  if pricingAssetSlugs.isEmpty ∨ request.asOf ≠ .latest then .ok fun _ => none
  else
    match env.priceQuoteReader with
    | some latestQuotes => latestQuotes pricingAssetSlugs request.quoteCurrency
    | none => .error .providerUnavailable

def resolve (registry : CanonicalRegistry) (env : Environment) (request : GetBalancesCommand) :
    Service GetBalancesResult := do
  let plans ← planGroups registry request
  let calls := plans.zipIdx.filterMap (spawn env)
  let executions ← (env.completion calls).foldlM joinNext (plans.map (initialExecution env))
  let results ← (plans.zip executions).foldlM placeGroup
    (List.replicate request.accounts.length none)
  let accounts ← results.mapM expect
  let accounts' ← enrichAccountResults accounts (latestQuotes env request accounts)
  return {
    asOf := request.asOf
    quoteCurrency := request.quoteCurrency
    requestedTokenCount := request.tokens.len
    accounts := accounts' }

end MotherApi.BalanceService
