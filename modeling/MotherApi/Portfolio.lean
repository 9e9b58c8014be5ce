import MotherApi.BalanceService
import MotherApi.Lib.Groups

/-!
The portfolio of a workspace, composed from balance results.

Every member address of the workspace gets the contributions that the commands resolved for it.
They are listed by member and, where they are resolved, once more by asset, with the amounts and
the values of an asset added up.
-/

namespace MotherApi.Portfolio

open MotherApi.Lib.Fallible MotherApi.Lib.Tables MotherApi.Lib.Groups MotherApi.Strings
open MotherApi.Registry MotherApi.BalanceCommand MotherApi.BalanceResponse MotherApi.BalanceService
open MotherApi.Decimal

def PORTFOLIO_QUOTE_CURRENCY : String := "USD"

structure WorkspaceMemberAddress where
  publicId : String
  networkSlug : String
  address : String
  clientRef : Option String
  labels : List String
  deriving DecidableEq

inductive PortfolioObservationStatus
  | complete | partially | unavailable
  deriving DecidableEq

inductive PortfolioContributionOutcome
  | balance (item : BalanceItemOutcome)
  | commandUnavailable (assetSlug : String)
  deriving DecidableEq

structure PortfolioContribution where
  memberId : String
  networkSlug : String
  address : String
  labels : List String
  evidence : Option BalanceEvidence
  outcome : PortfolioContributionOutcome
  deriving DecidableEq

structure MemberPortfolioObservation where
  member : WorkspaceMemberAddress
  contributions : List PortfolioContribution
  observationStatus : PortfolioObservationStatus
  deriving DecidableEq

structure AggregatedAssetObservation where
  assetSlug : String
  totalAmount : Option String
  knownValue : String
  contributions : List PortfolioContribution
  valuationStatus : PortfolioObservationStatus
  deriving DecidableEq

structure CurrentWorkspacePortfolio where
  quoteCurrency : String
  members : List MemberPortfolioObservation
  assets : List AggregatedAssetObservation
  knownValue : String
  valuationStatus : PortfolioObservationStatus
  deriving DecidableEq

inductive WorkspacePortfolioResolverError
  | planning (error : GetBalancesCommandError)
  | inconsistentBalanceResult
  | missingCanonicalAssetIdentity
  | unknownCanonicalAsset
  | invalidDecimal
  deriving DecidableEq

abbrev Compose := Except (Halt WorkspacePortfolioResolverError)

inductive CommandResolution
  | resolved (result : GetBalancesResult)
  | unavailable

abbrev MemberKey := String × String

def accountKey (networkSlug address : String) : MemberKey :=
  (toAsciiLowercase networkSlug, toAsciiLowercase address)

def memberKey (member : WorkspaceMemberAddress) : MemberKey :=
  accountKey member.networkSlug member.address

/-- Members are listed by network, address without regard to case, and public id. -/
def memberOrder (member : WorkspaceMemberAddress) : String ×ₗ String ×ₗ String :=
  toLex (member.networkSlug, toLex (toAsciiLowercase member.address, member.publicId))

/-! ### Planning -/

def accountOf (member : WorkspaceMemberAddress) : OnchainAccount :=
  ⟨member.networkSlug, member.address, member.clientRef⟩

/-- Members of a network are asked for by address without regard to case, and public id. -/
def plannerOrder (member : WorkspaceMemberAddress) : String ×ₗ String :=
  toLex (toAsciiLowercase member.address, member.publicId)

/-- What is asked for with one command: these assets of these members. -/
abbrev Batch := List String × List WorkspaceMemberAddress

def planBatch : Batch → Except GetBalancesCommandError GetBalancesCommand
  | (assetChunk, memberChunk) =>
    tryNew .latest (memberChunk.map accountOf) PORTFOLIO_QUOTE_CURRENCY ⟨assetChunk, []⟩

/-- The batches of a network, for every chunk of assets every chunk of members. -/
def networkBatches (registry : CanonicalRegistry) :
    String × List WorkspaceMemberAddress → List Batch
  | (networkSlug, members) =>
    let assetSlugs := registry.activeAssetSlugsMappedToNetwork networkSlug
    if assetSlugs.isEmpty then []
    else
      let members := members.insertionSort fun left right => plannerOrder left ≤ plannerOrder right
      (chunks MAX_TOKENS assetSlugs).flatMap fun assetChunk =>
        (chunks MAX_ACCOUNTS members).map fun memberChunk => (assetChunk, memberChunk)

def batches (registry : CanonicalRegistry) (members : List WorkspaceMemberAddress) : List Batch :=
  (groups WorkspaceMemberAddress.networkSlug members).flatMap (networkBatches registry)

/-- `WorkspaceBalanceResolutionPlanner::plan`, which ends at the first command that is not
accepted. -/
def plan (registry : CanonicalRegistry) (members : List WorkspaceMemberAddress) :
    Except GetBalancesCommandError (List GetBalancesCommand) :=
  (batches registry members).mapM planBatch

/-! ### Contributions -/

section

variable (member : WorkspaceMemberAddress)

def contribution (evidence : Option BalanceEvidence) (outcome : PortfolioContributionOutcome) :
    PortfolioContribution where
  memberId := member.publicId
  networkSlug := member.networkSlug
  address := member.address
  labels := member.labels
  evidence := evidence
  outcome := outcome

def commandUnavailableContribution (assetSlug : String) : PortfolioContribution :=
  contribution member none (.commandUnavailable assetSlug)

end

namespace PortfolioContributionOutcome

def assetSlug : PortfolioContributionOutcome → Option String
  | .balance (.resolved target _ _ _) | .balance (.failed target _) => target.assetSlug
  | .balance (.skipped _ assetSlug) | .commandUnavailable assetSlug => some assetSlug

def isResolved : PortfolioContributionOutcome → Bool
  | .balance (.resolved _ _ _ _) => true
  | _ => false

end PortfolioContributionOutcome

def contributionAssetSlug (contribution : PortfolioContribution) : Option String :=
  contribution.outcome.assetSlug

def isResolved (contribution : PortfolioContribution) : Bool := contribution.outcome.isResolved

/-- An `Option` is ordered with `None` first. -/
def contributionOrder (contribution : PortfolioContribution) : WithBot String ×ₗ String :=
  toLex (contributionAssetSlug contribution, contribution.address)

def canonicalAssetSlug (contribution : PortfolioContribution) : Compose (Option String) :=
  match contribution.outcome with
  | .balance (.resolved target _ _ _) =>
    match target.assetSlug with
    | some assetSlug => return some assetSlug
    | none => fail .missingCanonicalAssetIdentity
  | _ => return none

def resolvedAmount (contribution : PortfolioContribution) : Option String :=
  match contribution.outcome with
  | .balance (.resolved _ _ amount _) => amount
  | _ => none

def availableUsdQuoteValue (contribution : PortfolioContribution) : Option String :=
  match contribution.outcome with
  | .balance (.resolved _ _ _ (.available currency _ value _)) =>
    if eqIgnoreAsciiCase currency PORTFOLIO_QUOTE_CURRENCY then some value else none
  | _ => none

def balanceStatus (contributions : List PortfolioContribution) : PortfolioObservationStatus :=
  let resolved := contributions.countP isResolved
  if contributions.isEmpty then .complete
  else if resolved = 0 then .unavailable
  else if resolved = contributions.length then .complete
  else .partially

/-! ### Sums -/

def addDecimalValue (sum value : String) : Compose String :=
  match addUnsignedDecimals sum value with
  | .ok sum => return sum
  | .error _ => fail .invalidDecimal

def sumDecimalValues (values : List String) : Compose String := values.foldlM addDecimalValue "0"

/-- There is a total only if every contribution has an amount. -/
def sumAmounts (contributions : List PortfolioContribution) : Compose (Option String) :=
  let amounts := contributions.filterMap resolvedAmount
  if amounts.length = contributions.length then (sumDecimalValues amounts).map some
  else return none

def aggregateAsset : String × List PortfolioContribution → Compose AggregatedAssetObservation
  | (assetSlug, contributions) => do
    let totalAmount ← sumAmounts contributions
    let quoteValues := contributions.filterMap availableUsdQuoteValue
    let knownValue ← sumDecimalValues quoteValues
    return {
      assetSlug := assetSlug
      totalAmount := totalAmount
      knownValue := knownValue
      contributions := contributions
      valuationStatus :=
        if totalAmount.isSome ∧ quoteValues.length = contributions.length then .complete
        else .partially }

/-! ### Composition -/

abbrev MemberLookup := MemberKey → Option WorkspaceMemberAddress

abbrev Collections := MemberKey → Option (List PortfolioContribution)

/-- What one account of a command adds: a member and the contributions for it. -/
abbrev Addition := WorkspaceMemberAddress × List PortfolioContribution

section

variable (lookup : MemberLookup)

def balanceAddition (command : GetBalancesCommand) :
    OnchainAccount × BalancesAccountResult → Except WorkspacePortfolioResolverError Addition
  | (expected, actual) =>
    if accountKey expected.networkSlug expected.address ≠
          accountKey actual.account.networkSlug actual.account.address
        ∨ actual.items.length ≠ command.tokens.len then .error .inconsistentBalanceResult
    else
      match lookup (accountKey actual.account.networkSlug actual.account.address) with
      | none => .error .inconsistentBalanceResult
      | some member =>
        .ok (member,
          actual.items.map fun item => contribution member actual.evidence (.balance item))

def unavailableAddition (command : GetBalancesCommand) (account : OnchainAccount) :
    Except WorkspacePortfolioResolverError Addition :=
  match lookup (accountKey account.networkSlug account.address) with
  | none => .error .inconsistentBalanceResult
  | some member =>
    .ok (member, command.tokens.assetSlugs.map (commandUnavailableContribution member))

/-- What a command and its outcome add, account by account; or the outcome as a whole does not
fit the command. -/
def additions : GetBalancesCommand × CommandResolution →
    Except WorkspacePortfolioResolverError (List (Except WorkspacePortfolioResolverError Addition))
  | (command, outcome) =>
    if ¬command.tokens.contractAddresses.isEmpty then .error .inconsistentBalanceResult
    else
      match outcome with
      | .resolved result =>
        if result.quoteCurrency ≠ PORTFOLIO_QUOTE_CURRENCY
            ∨ result.requestedTokenCount ≠ command.tokens.len
            ∨ result.accounts.length ≠ command.accounts.length then
          .error .inconsistentBalanceResult
        else .ok ((command.accounts.zip result.accounts).map (balanceAddition lookup command))
      | .unavailable => .ok (command.accounts.map (unavailableAddition lookup command))

end

def push (collections : Collections) :
    Except WorkspacePortfolioResolverError Addition → Compose Collections
  | addition => do
    let (member, contributions) ← lift addition
    let existing ← expect (collections (memberKey member))
    return Function.update collections (memberKey member) (some (existing ++ contributions))

def appendOutcome (lookup : MemberLookup) (collections : Collections)
    (resolution : GetBalancesCommand × CommandResolution) : Compose Collections := do
  let additions ← lift (additions lookup resolution)
  additions.foldlM push collections

structure Observing where
  collections : Collections
  allContributions : List PortfolioContribution
  memberObservations : List MemberPortfolioObservation

def observe (state : Observing) (member : WorkspaceMemberAddress) : Compose Observing := do
  let contributions ← expect (state.collections (memberKey member))
  let contributions := contributions.insertionSort fun left right =>
    contributionOrder left ≤ contributionOrder right
  return {
    collections := Function.update state.collections (memberKey member) none
    allContributions := state.allContributions ++ contributions
    memberObservations := state.memberObservations ++
      [⟨member, contributions, balanceStatus contributions⟩] }

/-- The contribution under its asset, if it is resolved. -/
def identify (registry : CanonicalRegistry) (contribution : PortfolioContribution) :
    Compose (Option (String × PortfolioContribution)) := do
  match ← canonicalAssetSlug contribution with
  | none => return none
  | some assetSlug =>
    if (registry.assetBySlug assetSlug).isNone then fail .unknownCanonicalAsset
    else return some (assetSlug, contribution)

/-- The key an asset is sorted by; an asset that is not canonical panics. -/
def canonicalAssetOrder (registry : CanonicalRegistry) (asset : AggregatedAssetObservation) :
    Compose ((ℤ ×ₗ String ×ₗ String) × AggregatedAssetObservation) := do
  let canonical ← expect (registry.assetBySlug asset.assetSlug)
  return (assetKey canonical, asset)

def valuationStatus (memberObservations : List MemberPortfolioObservation)
    (allContributions : List PortfolioContribution) (assets : List AggregatedAssetObservation) :
    PortfolioObservationStatus :=
  if memberObservations.isEmpty then .complete
  else if balanceStatus allContributions = .unavailable then .unavailable
  else if balanceStatus allContributions = .partially
      ∨ ∃ asset ∈ assets, asset.valuationStatus ≠ .complete then .partially
  else .complete

/-- The contributions under the assets, in the order of the slugs. -/
def contributionsByAsset (identified : List (String × PortfolioContribution)) :
    List (String × List PortfolioContribution) :=
  (groups Prod.fst identified).map fun (assetSlug, entries) => (assetSlug, entries.map Prod.snd)

def sortAssets (registry : CanonicalRegistry) (assets : List AggregatedAssetObservation) :
    Compose (List AggregatedAssetObservation) := do
  let keyed ← assets.mapM (canonicalAssetOrder registry)
  return (keyed.insertionSort fun left right => left.1 ≤ right.1).map Prod.snd

/-- What follows once every member has its contributions. -/
def summarize (registry : CanonicalRegistry) (state : Observing) :
    Compose CurrentWorkspacePortfolio := do
  let identified ← state.allContributions.mapM (identify registry)
  let assets ← (contributionsByAsset identified.reduceOption).mapM aggregateAsset
  let assets ← sortAssets registry assets
  let knownValue ← sumDecimalValues (assets.map (·.knownValue))
  return {
    quoteCurrency := PORTFOLIO_QUOTE_CURRENCY
    members := state.memberObservations
    assets := assets
    knownValue := knownValue
    valuationStatus :=
      valuationStatus state.memberObservations state.allContributions assets }

/-- The members in the order of the portfolio. -/
def sortMembers (members : List WorkspaceMemberAddress) : List WorkspaceMemberAddress :=
  members.insertionSort fun left right => memberOrder left ≤ memberOrder right

def memberLookup (members : List WorkspaceMemberAddress) : MemberLookup :=
  ofPairs (members.map fun member => (memberKey member, member))

def emptyCollections (members : List WorkspaceMemberAddress) : Collections :=
  ofPairs (members.map fun member => (memberKey member, []))

def compose (registry : CanonicalRegistry) (members : List WorkspaceMemberAddress)
    (commands : List GetBalancesCommand) (outcomes : List CommandResolution) :
    Compose CurrentWorkspacePortfolio :=
  if commands.length ≠ outcomes.length then fail .inconsistentBalanceResult
  else do
    let members := sortMembers members
    let collections ← (commands.zip outcomes).foldlM (appendOutcome (memberLookup members))
      (emptyCollections members)
    let state ← members.foldlM observe ⟨collections, [], []⟩
    summarize registry state

end MotherApi.Portfolio
