import MotherApi.BalanceService
import MotherApi.Lib.Distinct
import MotherApi.Lib.Tables
import MotherApi.Rfc3339

/-!
The search for ERC-20 transfers of an address.

The tokens of a request are named by slug or by contract and become one list of contracts, which
goes to Bigwig with the address, the direction and the window. What Bigwig answers is shown with
what the registry says about the tokens in it.
-/

namespace MotherApi.TransferSearch

open MotherApi.Lib.Fallible MotherApi.Lib.Distinct MotherApi.Lib.Tables MotherApi.Strings
open MotherApi.Rfc3339 MotherApi.Registry MotherApi.BalanceTargets MotherApi.BalanceService
open MotherApi.Decimal

/-! ### Windows and directions -/

structure BlockWindow where
  fromBlock : ℕ
  toBlock : ℕ
  ordered : fromBlock ≤ toBlock
  deriving DecidableEq

structure TimestampWindow where
  fromTimestamp : String
  toTimestamp : String
  ordered : notLater fromTimestamp toTimestamp = true
  deriving DecidableEq

/-- The only end of a lookback is the latest block. -/
structure LookbackWindow where
  lookbackSeconds : ℕ
  positive : 0 < lookbackSeconds
  deriving DecidableEq

inductive OnchainWindow
  | block (window : BlockWindow)
  | timestamp (window : TimestampWindow)
  | lookback (window : LookbackWindow)
  deriving DecidableEq

inductive OnchainWindowKind
  | block | timestamp | lookback
  deriving DecidableEq

/-- Whose transfers are asked for: those the address sent, those it received, or both. -/
inductive TransferDirection
  | any | fromAddress | toAddress
  deriving DecidableEq

/-! ### Requests, plans and results -/

structure Erc20TransferSearchInput where
  networkSlug : String
  address : String
  direction : TransferDirection
  window : OnchainWindow
  assetSlugs : List String
  contractAddresses : List String

structure Erc20TransferSearchTokenFilters where
  assetSlugs : List String
  contractAddresses : List String
  deriving DecidableEq

structure Erc20TransferExtractionRequest where
  networkSlug : String
  address : String
  direction : TransferDirection
  window : OnchainWindow
  contractAddresses : List String
  deriving DecidableEq

inductive Erc20TransferTokenFilterSource
  | assetSlug | contractAddress
  deriving DecidableEq

structure ResolvedErc20TransferTokenFilter where
  contractAddress : String
  assetSlug : Option String
  symbol : Option String
  decimals : Option ℕ
  source : Erc20TransferTokenFilterSource
  deriving DecidableEq

structure Erc20TransferSearchPlan where
  extractionRequest : Erc20TransferExtractionRequest
  requestedTokenFilters : Erc20TransferSearchTokenFilters
  resolvedTokenFilters : List ResolvedErc20TransferTokenFilter
  deriving DecidableEq

structure Erc20TransferTokenCatalogMetadata where
  contractAddress : String
  assetSlug : String
  symbol : String
  decimals : ℕ
  deriving DecidableEq

structure Erc20TransferExtractionRow where
  blockNumber : ℕ
  txHash : String
  logIndex : ℕ
  token : String
  fromAddress : String
  toAddress : String
  value : String
  deriving DecidableEq

structure Erc20TransferExtractionResult where
  rows : List Erc20TransferExtractionRow
  truncated : Bool
  deriving DecidableEq

structure Erc20TransferSearchResult where
  plan : Erc20TransferSearchPlan
  extraction : Erc20TransferExtractionResult
  tokenMetadata : List Erc20TransferTokenCatalogMetadata
  deriving DecidableEq

inductive Erc20TransferCatalogResolutionIssue
  | resolutionCountMismatch | resolutionTargetMismatch
  deriving DecidableEq

inductive Erc20TransferSearchError
  | assetNotFound | assetNotAvailableOnNetwork | assetNotErc20OnNetwork | tooManyTokenFilters
  | invalidCatalogResolution (issue : Erc20TransferCatalogResolutionIssue)
  | windowTooLarge | invalidWindow | extractionUnavailable | extractionTimeout
  | upstreamProviderError | upstreamProviderTimeout | internalError
  deriving DecidableEq

inductive Erc20TransferExtractionError
  | windowTooLarge | invalidWindow | extractionUnavailable | extractionTimeout
  | upstreamProviderError | upstreamProviderTimeout | internalError
  deriving DecidableEq

def Erc20TransferSearchError.ofExtraction :
    Erc20TransferExtractionError → Erc20TransferSearchError
  | .windowTooLarge => .windowTooLarge
  | .invalidWindow => .invalidWindow
  | .extractionUnavailable => .extractionUnavailable
  | .extractionTimeout => .extractionTimeout
  | .upstreamProviderError => .upstreamProviderError
  | .upstreamProviderTimeout => .upstreamProviderTimeout
  | .internalError => .internalError

abbrev Search := Except Erc20TransferSearchError

/-! ### Token filters -/

def tokenFilterFromCatalog (networkSlug requestedAssetSlug : String) :
    BalanceTargetResolution → Search ResolvedErc20TransferTokenFilter
  | .resolved target =>
    if target.networkSlug ≠ networkSlug ∨ target.assetSlug ≠ requestedAssetSlug then
      .error (.invalidCatalogResolution .resolutionTargetMismatch)
    else
      match target.kind with
      | .erc20 contractAddress => .ok {
          contractAddress := contractAddress
          assetSlug := some target.assetSlug
          symbol := some target.symbol
          decimals := some target.decimals
          source := .assetSlug }
      | .native => .error .assetNotErc20OnNetwork
  | .unsupportedAsset _ _ => .error .assetNotFound
  | .unsupportedNetwork _ _ | .unsupportedPair _ _ => .error .assetNotAvailableOnNetwork
  | .unsupportedTokenStandard _ _ => .error .assetNotErc20OnNetwork

def resolvedTokenFiltersFromCatalog (networkSlug : String) (requestedAssetSlugs : List String)
    (resolutions : List BalanceTargetResolution) :
    Search (List ResolvedErc20TransferTokenFilter) :=
  if resolutions.length ≠ requestedAssetSlugs.length then
    .error (.invalidCatalogResolution .resolutionCountMismatch)
  else
    (requestedAssetSlugs.zip resolutions).mapM fun (requestedAssetSlug, resolution) =>
      tokenFilterFromCatalog networkSlug requestedAssetSlug resolution

def lowercaseTokenFilter (tokenFilter : ResolvedErc20TransferTokenFilter) :
    ResolvedErc20TransferTokenFilter :=
  { tokenFilter with contractAddress := toAsciiLowercase tokenFilter.contractAddress }

/-- The set of addresses seen is that of the filters pushed. -/
def pushUniqueTokenFilter (tokenFilters : List ResolvedErc20TransferTokenFilter)
    (tokenFilter : ResolvedErc20TransferTokenFilter) : List ResolvedErc20TransferTokenFilter :=
  pushUnique (·.contractAddress) tokenFilters (lowercaseTokenFilter tokenFilter)

def explicitTokenFilter (contractAddress : String) : ResolvedErc20TransferTokenFilter where
  contractAddress := contractAddress
  assetSlug := none
  symbol := none
  decimals := none
  source := .contractAddress

section

variable (registry : CanonicalRegistry)

/-- The filters of the slugs; the resolver is not asked if there are none. -/
def resolvedAssetFilters (networkSlug : String) (assetSlugs : List String) :
    Search (List ResolvedErc20TransferTokenFilter) :=
  if assetSlugs.isEmpty then .ok []
  else
    resolvedTokenFiltersFromCatalog networkSlug assetSlugs
      (resolveNetwork registry networkSlug assetSlugs)

def resolveTokenFilters (networkSlug : String) (tokens : Erc20TransferSearchTokenFilters) :
    Search (List ResolvedErc20TransferTokenFilter) := do
  let assetFilters ← resolvedAssetFilters registry networkSlug tokens.assetSlugs
  let resolvedTokenFilters := assetFilters.foldl pushUniqueTokenFilter []
  return (tokens.contractAddresses.map explicitTokenFilter).foldl pushUniqueTokenFilter
    resolvedTokenFilters

def enforceTokenFilterLimit (tokenFilters : List ResolvedErc20TransferTokenFilter)
    (maxTokenFilters : ℕ) : Search Unit :=
  if tokenFilters.length > maxTokenFilters then .error .tooManyTokenFilters else .ok ()

def buildSearchPlan (input : Erc20TransferSearchInput) (maxTokenFilters : ℕ) :
    Search Erc20TransferSearchPlan := do
  let requestedTokenFilters := ⟨input.assetSlugs, input.contractAddresses⟩
  let resolvedTokenFilters ← resolveTokenFilters registry input.networkSlug requestedTokenFilters
  enforceTokenFilterLimit resolvedTokenFilters maxTokenFilters
  return {
    extractionRequest := {
      networkSlug := input.networkSlug
      address := toAsciiLowercase input.address
      direction := input.direction
      window := input.window
      contractAddresses := resolvedTokenFilters.map (·.contractAddress) }
    requestedTokenFilters := requestedTokenFilters
    resolvedTokenFilters := resolvedTokenFilters }

/-! ### Metadata of the tokens -/

def metadataFromResolvedFilter (tokenFilter : ResolvedErc20TransferTokenFilter) :
    Option Erc20TransferTokenCatalogMetadata := do
  return {
    contractAddress := toAsciiLowercase tokenFilter.contractAddress
    assetSlug := ← tokenFilter.assetSlug
    symbol := ← tokenFilter.symbol
    decimals := ← tokenFilter.decimals }

def pushUniqueAddress (addresses : List String) (address : String) : List String :=
  pushUnique id addresses (toAsciiLowercase address)

def collectMetadataLookupAddresses (plan : Erc20TransferSearchPlan)
    (extraction : Erc20TransferExtractionResult) : List String :=
  let addresses := (plan.resolvedTokenFilters.map (·.contractAddress)).foldl pushUniqueAddress []
  (extraction.rows.map (·.token)).foldl pushUniqueAddress addresses

abbrev MetadataTable := String → Option Erc20TransferTokenCatalogMetadata

/-- What the registry says about an address, unless the table has the address already. -/
def insertCatalogMetadata (networkSlug : String) (metadataByContract : MetadataTable)
    (address : String) : Search MetadataTable :=
  match registry.erc20Metadata networkSlug address with
  | none => .ok metadataByContract
  | some metadata =>
    match metadata.mapping.decimals.bind toU8 with
    | none => .error .internalError
    | some decimals =>
      if (metadataByContract address).isSome then .ok metadataByContract
      else
        .ok (Function.update metadataByContract address (some {
          contractAddress := address
          assetSlug := metadata.asset.slug
          symbol := metadata.asset.symbol
          decimals := decimals }))

def enrichTokenFilter (metadataByContract : MetadataTable)
    (tokenFilter : ResolvedErc20TransferTokenFilter) : ResolvedErc20TransferTokenFilter :=
  match metadataByContract (toAsciiLowercase tokenFilter.contractAddress) with
  | some metadata =>
    { tokenFilter with
      assetSlug := some metadata.assetSlug
      symbol := some metadata.symbol
      decimals := some metadata.decimals }
  | none => tokenFilter

def filterMetadataTable (tokenFilters : List ResolvedErc20TransferTokenFilter) : MetadataTable :=
  ofPairs ((tokenFilters.filterMap metadataFromResolvedFilter).map fun metadata =>
    (metadata.contractAddress, metadata))

/-- The plan with its filters enriched, and the metadata in the order of the lookups. -/
def enrichTokenMetadata (plan : Erc20TransferSearchPlan)
    (extraction : Erc20TransferExtractionResult) :
    Search (Erc20TransferSearchPlan × List Erc20TransferTokenCatalogMetadata) := do
  let lookupAddresses := collectMetadataLookupAddresses plan extraction
  let metadataByContract ← lookupAddresses.foldlM
    (insertCatalogMetadata registry plan.extractionRequest.networkSlug)
    (filterMetadataTable plan.resolvedTokenFilters)
  let resolvedTokenFilters := plan.resolvedTokenFilters.map (enrichTokenFilter metadataByContract)
  return ({ plan with resolvedTokenFilters := resolvedTokenFilters },
    lookupAddresses.filterMap metadataByContract)

/-! ### The search -/

/-- What an extractor answers to a request. -/
abbrev Erc20TransferExtractor :=
  Erc20TransferExtractionRequest → Except Erc20TransferExtractionError Erc20TransferExtractionResult

def executeSearchPlan (extractor : Erc20TransferExtractor) (plan : Erc20TransferSearchPlan) :
    Search Erc20TransferSearchResult := do
  let extraction ← (extractor plan.extractionRequest).mapError .ofExtraction
  let (plan, tokenMetadata) ← enrichTokenMetadata registry plan extraction
  return ⟨plan, extraction, tokenMetadata⟩

end

/-! ### Bigwig as the extractor -/

structure BigwigErc20TransferRequest where
  networkSlug : String
  address : String
  direction : TransferDirection
  contractAddresses : List String
  window : OnchainWindow
  deriving DecidableEq

def BigwigErc20TransferRequest.ofRequest (request : Erc20TransferExtractionRequest) :
    BigwigErc20TransferRequest where
  networkSlug := request.networkSlug
  address := toAsciiLowercase request.address
  direction := request.direction
  contractAddresses := request.contractAddresses.map toAsciiLowercase
  window := request.window

/-- A row as it is received: the row of a result, before its addresses are put in lower case. -/
structure BigwigErc20TransferRow where
  blockNumber : ℕ
  txHash : String
  logIndex : ℕ
  token : String
  fromAddress : String
  toAddress : String
  value : String
  deriving DecidableEq

/-- The name of the extractor is the only one there is. -/
structure BigwigErc20TransferResponse where
  networkSlug : String
  address : String
  direction : TransferDirection
  windowKind : OnchainWindowKind
  fromBlock : Option ℕ
  toBlock : Option ℕ
  fromTimestamp : Option String
  toTimestamp : Option String
  lookbackSeconds : Option ℕ
  truncated : Bool
  rowsExtracted : ℕ
  results : List BigwigErc20TransferRow
  deriving DecidableEq

def Erc20TransferExtractionRow.ofBigwig (row : BigwigErc20TransferRow) :
    Erc20TransferExtractionRow where
  blockNumber := row.blockNumber
  txHash := row.txHash
  logIndex := row.logIndex
  token := toAsciiLowercase row.token
  fromAddress := toAsciiLowercase row.fromAddress
  toAddress := toAsciiLowercase row.toAddress
  value := row.value

def Erc20TransferExtractionResult.tryFrom (response : BigwigErc20TransferResponse) :
    Except Erc20TransferExtractionError Erc20TransferExtractionResult :=
  if response.rowsExtracted ≠ response.results.length then .error .internalError
  else .ok ⟨response.results.map .ofBigwig, response.truncated⟩

def mapBigwigTransferError : BigwigError → Erc20TransferExtractionError
  | .reversedBlockRange | .blockOutOfRange | .reversedTimestampRange | .timestampOutOfRange =>
    .invalidWindow
  | .lookbackTooLarge | .rangeTooLarge => .windowTooLarge
  | .rpcError => .upstreamProviderError
  | .providerTimeout => .upstreamProviderTimeout
  | .timeout | .extractionTimeout => .extractionTimeout
  | .transport | .unauthorized | .unsupportedNetwork | .networkNotEnabledForOperation
  | .noRouteSatisfiesOperation | .rateLimited _ | .providerUnavailable _ | .internalError =>
    .extractionUnavailable
  | .invalidExtractionRequest | .invalidAddress | .invalidContractAddress | .invalidDirection
  | .invalidAsOf | .invalidWindowShape | .timestampAnchorNotConfigured
  | .tooManyContractAddresses | .requestValidation _ | .malformedSuccessResponse
  | .malformedErrorResponse | .unexpectedSuccessStatus _ | .unexpectedErrorResponse _ =>
    .internalError

/-- The client of a service that answers requests. -/
def bigwigClient
    (service : BigwigErc20TransferRequest → Except BigwigError BigwigErc20TransferResponse) :
    Erc20TransferExtractor := fun request => do
  let response ← (service (.ofRequest request)).mapError mapBigwigTransferError
  Erc20TransferExtractionResult.tryFrom response

/-! ### What is shown -/

structure Erc20TransferToken where
  contractAddress : String
  assetSlug : Option String
  symbol : Option String
  decimals : Option ℕ
  deriving DecidableEq

structure Erc20TransferAmount where
  raw : String
  decimal : Option String
  deriving DecidableEq

structure Erc20TransferRow where
  blockNumber : ℕ
  txHash : String
  logIndex : ℕ
  token : Erc20TransferToken
  fromAddress : String
  toAddress : String
  amount : Erc20TransferAmount
  direction : TransferDirection
  deriving DecidableEq

structure Erc20TransferSearchResponse where
  networkSlug : String
  address : String
  direction : TransferDirection
  window : OnchainWindow
  requestedTokenFilters : Erc20TransferSearchTokenFilters
  resolvedContractAddresses : List ResolvedErc20TransferTokenFilter
  transfers : List Erc20TransferRow
  truncated : Bool
  deriving DecidableEq

def trimTrailingFractionalZeros (amount : String) : String :=
  match amount.toList.span (· != '.') with
  | (integer, '.' :: fraction) =>
    let fraction := (fraction.reverse.dropWhile (· == '0')).reverse
    if fraction.isEmpty then String.ofList integer
    else String.ofList (integer ++ '.' :: fraction)
  | _ => amount

def decimalAmount (rawAmount : String) (decimals : ℕ) : Option String :=
  (formatAmount rawAmount decimals).toOption.map trimTrailingFractionalZeros

def transferRowDirection (row : Erc20TransferExtractionRow) (watchedAddress : String) :
    TransferDirection :=
  if eqIgnoreAsciiCase row.fromAddress watchedAddress then .fromAddress
  else if eqIgnoreAsciiCase row.toAddress watchedAddress then .toAddress
  else .any

def erc20TransferRowToDto (row : Erc20TransferExtractionRow) (watchedAddress : String)
    (tokenMetadata : MetadataTable) : Erc20TransferRow :=
  let contractAddress := toAsciiLowercase row.token
  let metadata := tokenMetadata contractAddress
  { blockNumber := row.blockNumber
    txHash := row.txHash
    logIndex := row.logIndex
    token := {
      contractAddress := contractAddress
      assetSlug := metadata.map (·.assetSlug)
      symbol := metadata.map (·.symbol)
      decimals := metadata.map (·.decimals) }
    fromAddress := row.fromAddress
    toAddress := row.toAddress
    amount := {
      raw := row.value
      decimal := metadata.bind fun metadata => decimalAmount row.value metadata.decimals }
    direction := transferRowDirection row watchedAddress }

def erc20TransferSearchResponseFromResult (result : Erc20TransferSearchResult) :
    Erc20TransferSearchResponse :=
  let request := result.plan.extractionRequest
  let tokenMetadata := ofPairs (result.tokenMetadata.map fun metadata =>
    (metadata.contractAddress, metadata))
  { networkSlug := request.networkSlug
    address := request.address
    direction := request.direction
    window := request.window
    requestedTokenFilters := result.plan.requestedTokenFilters
    resolvedContractAddresses := result.plan.resolvedTokenFilters
    transfers := result.extraction.rows.map fun row =>
      erc20TransferRowToDto row request.address tokenMetadata
    truncated := result.extraction.truncated }

example : trimTrailingFractionalZeros "12.3400" = "12.34" := by decide +kernel

end MotherApi.TransferSearch
