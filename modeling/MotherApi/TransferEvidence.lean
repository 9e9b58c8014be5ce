import Mathlib.Algebra.Order.BigOperators.Group.List
import MotherApi.TransferFilters

/-!
Whether what a transfer search returns answers what was asked.

An answer of Bigwig repeats the network, the address, the direction and the window it is for, and
its rows say who sent which token to whom. The contract of the search has all of it compared with
the request; what is compared is the number of rows.
-/

namespace MotherApi.TransferEvidence

open MotherApi.Lib.Fallible MotherApi.Strings MotherApi.Registry
open MotherApi.Registry.CanonicalRegistry MotherApi.RegistryAnswers MotherApi.BalanceService
open MotherApi.Decimal
open MotherApi.TokenSelectors MotherApi.TransferSearch MotherApi.TransferFilters

/-! ### The question and its answers -/

def OnchainWindow.kind : OnchainWindow → OnchainWindowKind
  | .block _ => .block
  | .timestamp _ => .timestamp
  | .lookback _ => .lookback

/-- The bounds that are returned of the requested kind are the requested ones, and returned
blocks are in order. -/
def coherentBounds (response : BigwigErc20TransferResponse) : OnchainWindow → Bool
  | .block window => response.fromBlock.all (· == window.fromBlock) &&
      response.toBlock.all (· == window.toBlock)
  | .timestamp window => response.fromTimestamp.all (· == window.fromTimestamp) &&
      response.toTimestamp.all (· == window.toTimestamp) &&
      response.fromBlock.all fun fromBlock => response.toBlock.all (fromBlock ≤ ·)
  | .lookback window => response.lookbackSeconds.all (· == window.lookbackSeconds) &&
      response.fromBlock.all fun fromBlock => response.toBlock.all (fromBlock ≤ ·)

/-- A row of the address in the direction. -/
def concerns (address sender recipient : String) : TransferDirection → Prop
  | .fromAddress => sender = address
  | .toAddress => recipient = address
  | .any => sender = address ∨ recipient = address

/-- A returned row is about the address that was asked for and a token that was asked for. -/
structure RowAnswers (request : Erc20TransferExtractionRequest) (row : Erc20TransferExtractionRow) :
    Prop where
  address : concerns (toAsciiLowercase request.address) row.fromAddress row.toAddress
    request.direction
  token : request.contractAddresses ≠ [] →
    row.token ∈ request.contractAddresses.map toAsciiLowercase
  value : isUnsignedInteger row.value.toList = true

/-- The response and the rows taken from it answer the request. -/
structure AnswersQuestion (request : Erc20TransferExtractionRequest)
    (response : BigwigErc20TransferResponse) (extraction : Erc20TransferExtractionResult) :
    Prop where
  networkSlug : response.networkSlug = request.networkSlug
  address : toAsciiLowercase response.address = toAsciiLowercase request.address
  direction : response.direction = request.direction
  windowKind : response.windowKind = OnchainWindow.kind request.window
  bounds : coherentBounds response request.window = true
  count : response.rowsExtracted = extraction.rows.length
  rows : ∀ row ∈ extraction.rows, RowAnswers request row

/-- Whatever is accepted of the responses to a plan answers its request. -/
def AcceptsOnlyAnswers (registry : CanonicalRegistry) (plan : Erc20TransferSearchPlan) : Prop :=
  ∀ (service : BigwigErc20TransferRequest → Except BigwigError BigwigErc20TransferResponse)
    (response : BigwigErc20TransferResponse),
    service (.ofRequest plan.extractionRequest) = .ok response →
    ∀ result, executeSearchPlan registry (bigwigClient service) plan = .ok result →
      AnswersQuestion plan.extractionRequest response result.extraction

/-! ### A response to another question -/

/-- A row of other addresses and of another token. -/
structure RowStrays (request : Erc20TransferExtractionRequest) (row : Erc20TransferExtractionRow) :
    Prop where
  address : ¬concerns (toAsciiLowercase request.address) row.fromAddress row.toAddress
    request.direction
  token : row.token ∉ request.contractAddresses.map toAsciiLowercase
  value : isUnsignedInteger row.value.toList = false

/-- The response and each row taken from it, of which there are some, are wrong in all that the
contract of the search has compared, the number of rows apart. -/
structure Strays (request : Erc20TransferExtractionRequest)
    (response : BigwigErc20TransferResponse) (extraction : Erc20TransferExtractionResult) :
    Prop where
  networkSlug : response.networkSlug ≠ request.networkSlug
  address : toAsciiLowercase response.address ≠ toAsciiLowercase request.address
  direction : response.direction ≠ request.direction
  windowKind : response.windowKind ≠ OnchainWindow.kind request.window
  bounds : coherentBounds response request.window = false
  some_row : extraction.rows ≠ []
  rows : ∀ row ∈ extraction.rows, RowStrays request row

lemma Strays.not_answers {request : Erc20TransferExtractionRequest}
    {response : BigwigErc20TransferResponse} {extraction : Erc20TransferExtractionResult}
    (h : Strays request response extraction) : ¬AnswersQuestion request response extraction :=
  fun hanswers => h.networkSlug hanswers.networkSlug

/-- A text that is longer than each of the texts. -/
def longerThan (texts : List String) : String := texts.foldr (· ++ ·) "?"

lemma length_toAsciiLowercase (value : String) :
    (toAsciiLowercase value).length = value.length := by
  simp [toAsciiLowercase, String.length_toList]

lemma length_longerThan (texts : List String) :
    (longerThan texts).length = (texts.map String.length).sum + 1 := by
  induction texts with
  | nil => rfl
  | cons text texts ih =>
    rw [longerThan, List.foldr_cons, String.length_append, ← longerThan, ih, List.map_cons,
      List.sum_cons, Nat.add_assoc]

lemma length_lt_longerThan {texts : List String} {text : String} (h : text ∈ texts) :
    text.length < (longerThan texts).length := by
  rw [length_longerThan]
  exact Nat.lt_succ_of_le (List.le_sum_of_mem (List.mem_map_of_mem h))

lemma toAsciiLowercase_longerThan_notMem (texts : List String) :
    toAsciiLowercase (longerThan texts) ∉ texts.map toAsciiLowercase := by
  intro hmem
  obtain ⟨text, htext, heq⟩ := List.mem_map.mp hmem
  have hlength := congrArg String.length heq
  rw [length_toAsciiLowercase, length_toAsciiLowercase] at hlength
  exact absurd hlength (length_lt_longerThan htext).ne

lemma toAsciiLowercase_longerThan_ne (text : String) :
    toAsciiLowercase (longerThan [text]) ≠ toAsciiLowercase text := by
  simpa using toAsciiLowercase_longerThan_notMem [text]

def otherDirection : TransferDirection → TransferDirection
  | .fromAddress => .toAddress
  | .toAddress | .any => .fromAddress

def otherKind : OnchainWindowKind → OnchainWindowKind
  | .block => .lookback
  | .timestamp | .lookback => .block

/-- A response to a request that says of nothing what was asked. -/
def strayFor (request : Erc20TransferExtractionRequest) : BigwigErc20TransferResponse where
  networkSlug := longerThan [request.networkSlug]
  address := longerThan [request.address]
  direction := otherDirection request.direction
  windowKind := otherKind (OnchainWindow.kind request.window)
  fromBlock := some 1
  toBlock := some 0
  fromTimestamp := none
  toTimestamp := none
  lookbackSeconds := none
  truncated := false
  rowsExtracted := 1
  results := [{
    blockNumber := 0
    txHash := ""
    logIndex := 0
    token := longerThan request.contractAddresses
    fromAddress := longerThan [request.address]
    toAddress := longerThan [request.address]
    value := "many" }]

/-- Blocks from 1 to 0 are the bounds of no window. -/
lemma coherentBounds_strayFor (request : Erc20TransferExtractionRequest) :
    coherentBounds (strayFor request) request.window = false := by
  cases hwindow : request.window with
  | block window =>
    have hordered := window.ordered
    simp only [coherentBounds, strayFor, Option.all_some, Bool.and_eq_false_iff,
      beq_eq_false_iff_ne]
    omega
  | timestamp window => simp [coherentBounds, strayFor]
  | lookback window => simp [coherentBounds, strayFor]

lemma strayFor_strays (request : Erc20TransferExtractionRequest) :
    Strays request (strayFor request)
      ⟨(strayFor request).results.map .ofBigwig, (strayFor request).truncated⟩ where
  networkSlug := fun h => absurd (congrArg toAsciiLowercase h) (toAsciiLowercase_longerThan_ne _)
  address := toAsciiLowercase_longerThan_ne _
  direction := by
    cases hdirection : request.direction <;> simp [strayFor, otherDirection, hdirection]
  windowKind := by
    cases hkind : OnchainWindow.kind request.window <;> simp [strayFor, otherKind, hkind]
  bounds := coherentBounds_strayFor request
  some_row := by simp [strayFor]
  rows := by
    intro row hrow
    obtain rfl : row = .ofBigwig _ := by simpa [strayFor] using hrow
    have hvalue : isUnsignedInteger "many".toList = false := by decide +kernel
    refine ⟨?_, toAsciiLowercase_longerThan_notMem _, hvalue⟩
    have hne := toAsciiLowercase_longerThan_ne request.address
    cases hdirection : request.direction with
    | fromAddress => exact hne
    | toAddress => exact hne
    | any =>
      rintro (h | h)
      · exact hne h
      · exact hne h

/-! ### What is accepted -/

lemma exists_foldlM_insert {catalog : Catalog} {registry : CanonicalRegistry}
    (h : BuiltFrom catalog registry) (networkSlug : String) (addresses : List String)
    (table : MetadataTable) :
    ∃ table', addresses.foldlM (insertCatalogMetadata registry networkSlug) table =
      .ok table' := by
  have hstep (table : MetadataTable) (address : String) : Returns (fun _ => False)
      (fun _ => True) (insertCatalogMetadata registry networkSlug table address) := by
    unfold insertCatalogMetadata
    cases hmetadata : registry.erc20Metadata networkSlug address with
    | none => trivial
    | some metadata =>
      obtain ⟨decimals, -, hdecimals⟩ := exists_decimals h hmetadata
      simp only [hdecimals]
      split <;> trivial
  have hreturns : Returns (fun _ => False) (fun _ => True)
      (addresses.foldlM (insertCatalogMetadata registry networkSlug) table) :=
    returns_foldlM (fun _ _ => True) (fun _ address _ _ table _ => hstep table address) trivial
  cases htable : addresses.foldlM (insertCatalogMetadata registry networkSlug) table with
  | ok table' => exact ⟨table', rfl⟩
  | error e =>
    rw [htable] at hreturns
    cases hreturns

/-- A search that was answered is refused exactly if the number of rows is wrong. -/
lemma executeSearchPlan_ok_iff {catalog : Catalog} {registry : CanonicalRegistry}
    (h : BuiltFrom catalog registry) {plan : Erc20TransferSearchPlan}
    {service : BigwigErc20TransferRequest → Except BigwigError BigwigErc20TransferResponse}
    {response : BigwigErc20TransferResponse}
    (hservice : service (.ofRequest plan.extractionRequest) = .ok response)
    {extraction : Erc20TransferExtractionResult} :
    (∃ result, executeSearchPlan registry (bigwigClient service) plan = .ok result ∧
        result.extraction = extraction) ↔
      response.rowsExtracted = response.results.length ∧
        extraction = ⟨response.results.map .ofBigwig, response.truncated⟩ := by
  have hclient : bigwigClient service plan.extractionRequest =
      Erc20TransferExtractionResult.tryFrom response := by
    unfold bigwigClient
    rw [hservice]
    rfl
  constructor
  · rintro ⟨result, hresult, rfl⟩
    unfold executeSearchPlan at hresult
    obtain ⟨extraction, hextraction, hresult⟩ := bind_eq_ok.mp hresult
    obtain ⟨enriched, -, hresult⟩ := bind_eq_ok.mp hresult
    cases hresult
    rw [hclient, Erc20TransferExtractionResult.tryFrom] at hextraction
    split at hextraction
    · cases hextraction
    · rename_i hcount
      cases hextraction
      exact ⟨not_not.mp hcount, rfl⟩
  · rintro ⟨hcount, rfl⟩
    obtain ⟨table, htable⟩ := exists_foldlM_insert h plan.extractionRequest.networkSlug
      (collectMetadataLookupAddresses plan ⟨response.results.map .ofBigwig, response.truncated⟩)
      (filterMetadataTable plan.resolvedTokenFilters)
    refine ⟨_, executeSearchPlan_eq ?_ htable, rfl⟩
    rw [hclient, Erc20TransferExtractionResult.tryFrom, if_neg (not_not.mpr hcount)]

/-- **A search does not only return what was asked for**: to every plan there is a response that is
accepted and that is about nothing the plan asks for. -/
theorem not_acceptsOnlyAnswers {catalog : Catalog} {registry : CanonicalRegistry}
    (hregistry : fromCatalog catalog = .ok registry) (plan : Erc20TransferSearchPlan) :
    ¬AcceptsOnlyAnswers registry plan ∧
      ∃ response result, executeSearchPlan registry (bigwigClient fun _ => .ok response) plan =
          .ok result ∧
        Strays plan.extractionRequest response result.extraction := by
  let response := strayFor plan.extractionRequest
  let service : BigwigErc20TransferRequest → Except BigwigError BigwigErc20TransferResponse :=
    fun _ => .ok response
  have hservice : service (.ofRequest plan.extractionRequest) = .ok response := rfl
  obtain ⟨result, hresult, hextraction⟩ :=
    (executeSearchPlan_ok_iff (fromCatalog_builtFrom hregistry) hservice).mpr ⟨rfl, rfl⟩
  have hstrays : Strays plan.extractionRequest response result.extraction := by
    rw [hextraction]
    exact strayFor_strays plan.extractionRequest
  refine ⟨fun honly => ?_, response, result, hresult, hstrays⟩
  exact hstrays.not_answers (honly service response hservice result hresult)

/-- A search for what an address sent of one token. -/
def sentPlan : Erc20TransferSearchPlan where
  extractionRequest := {
    networkSlug := "eth-mainnet"
    address := "0xabc0000000000000000000000000000000000000"
    direction := .fromAddress
    window := .block ⟨18600000, 18600500, by decide⟩
    contractAddresses := ["0xa0b86991c6218b36c1d19d4a2e9eb0ce3606eb48"] }
  requestedTokenFilters := ⟨[], ["0xa0b86991c6218b36c1d19d4a2e9eb0ce3606eb48"]⟩
  resolvedTokenFilters := [explicitTokenFilter "0xa0b86991c6218b36c1d19d4a2e9eb0ce3606eb48"]

/-- The answer to it. -/
def sentResponse : BigwigErc20TransferResponse where
  networkSlug := "eth-mainnet"
  address := "0xABC0000000000000000000000000000000000000"
  direction := .fromAddress
  windowKind := .block
  fromBlock := some 18600000
  toBlock := some 18600500
  fromTimestamp := none
  toTimestamp := none
  lookbackSeconds := none
  truncated := false
  rowsExtracted := 1
  results := [{
    blockNumber := 18600001
    txHash := "0x0000000000000000000000000000000000000000000000000000000000000001"
    logIndex := 12
    token := "0xa0b86991c6218b36c1d19d4a2e9eb0ce3606eb48"
    fromAddress := "0xabc0000000000000000000000000000000000000"
    toAddress := "0x2222222222222222222222222222222222222222"
    value := "1000000" }]

lemma sentResponse_answers : AnswersQuestion sentPlan.extractionRequest sentResponse
    ⟨sentResponse.results.map .ofBigwig, sentResponse.truncated⟩ where
  networkSlug := rfl
  address := by decide +kernel
  direction := rfl
  windowKind := rfl
  bounds := by decide +kernel
  count := rfl
  rows := by
    intro row hrow
    obtain rfl : row = .ofBigwig _ := by simpa [sentResponse] using hrow
    refine ⟨?_, fun _ => ?_, by decide +kernel⟩
    · show toAsciiLowercase _ = toAsciiLowercase _
      decide +kernel
    · decide +kernel

/-- The answer is accepted, and so are others. -/
theorem not_acceptsOnlyAnswers_sent :
    (∃ result, executeSearchPlan tokenRegistry (bigwigClient fun _ => .ok sentResponse) sentPlan =
        .ok result ∧
      AnswersQuestion sentPlan.extractionRequest sentResponse result.extraction) ∧
    ¬AcceptsOnlyAnswers tokenRegistry sentPlan ∧
      ∃ response result, executeSearchPlan tokenRegistry (bigwigClient fun _ => .ok response)
          sentPlan = .ok result ∧
        Strays sentPlan.extractionRequest response result.extraction := by
  have hregistry : fromCatalog tokenCatalog = .ok tokenRegistry := eq_ok_value _ _
  let service : BigwigErc20TransferRequest → Except BigwigError BigwigErc20TransferResponse :=
    fun _ => .ok sentResponse
  have hservice : service (.ofRequest sentPlan.extractionRequest) = .ok sentResponse := rfl
  obtain ⟨result, hresult, hextraction⟩ :=
    (executeSearchPlan_ok_iff (fromCatalog_builtFrom hregistry) hservice).mpr ⟨rfl, rfl⟩
  refine ⟨⟨result, hresult, ?_⟩, not_acceptsOnlyAnswers hregistry sentPlan⟩
  rw [hextraction]
  exact sentResponse_answers

/-- An answer for another address on another network, with a transfer between others. -/
def strayResponse : BigwigErc20TransferResponse where
  networkSlug := "base-mainnet"
  address := "0x3333333333333333333333333333333333333333"
  direction := .toAddress
  windowKind := .lookback
  fromBlock := none
  toBlock := none
  fromTimestamp := none
  toTimestamp := none
  lookbackSeconds := some 600
  truncated := false
  rowsExtracted := 1
  results := [{
    blockNumber := 1
    txHash := "0x0000000000000000000000000000000000000000000000000000000000000001"
    logIndex := 0
    token := "0x1111111111111111111111111111111111111111"
    fromAddress := "0x2222222222222222222222222222222222222222"
    toAddress := "0x3333333333333333333333333333333333333333"
    value := "many" }]

theorem stray_response_accepted :
    ∃ result, executeSearchPlan tokenRegistry (bigwigClient fun _ => .ok strayResponse) sentPlan =
        .ok result ∧
      ¬AnswersQuestion sentPlan.extractionRequest strayResponse result.extraction := by
  have hregistry : fromCatalog tokenCatalog = .ok tokenRegistry := eq_ok_value _ _
  have hcount : strayResponse.rowsExtracted = strayResponse.results.length := rfl
  let service : BigwigErc20TransferRequest → Except BigwigError BigwigErc20TransferResponse :=
    fun _ => .ok strayResponse
  have hservice : service (.ofRequest sentPlan.extractionRequest) = .ok strayResponse := rfl
  obtain ⟨result, hresult, -⟩ :=
    (executeSearchPlan_ok_iff (fromCatalog_builtFrom hregistry) hservice).mpr ⟨hcount, rfl⟩
  refine ⟨result, hresult, fun hanswers => ?_⟩
  exact absurd hanswers.direction (by decide)

end MotherApi.TransferEvidence
