import MotherApi.BlockResolver
import MotherApi.SimulationWindows

/-!
The evidence of a simulation.

A simulation is given a price for each timestamp of its window, and for the Aave strategy an income
index too. Prices are what the indexer has at the timestamp, whatever they are. Indexes are read
from the chain at the block of the timestamp, as a word of 256 bits that must not be zero.
-/

namespace MotherApi.SimulationEvidence

open MotherApi.Lib.Fallible MotherApi.Lib.Numerals MotherApi.Strings MotherApi.SimulationTime
open MotherApi.BlockResolver MotherApi.SimulationWindows

/-- `Error` of the simulation. -/
inductive SimulationError
  | invalidInitialCapital | unsupportedQuoteCurrency | invalidDateRange | unsupportedStrategy
  | historicalPricesUnavailable | historicalPricesMalformed | aaveEvidenceUnavailable
  deriving DecidableEq

def quoteCurrency : String := "USD"

/-! ### Prices -/

inductive PriceSignalError
  | invalidRequest | notFound | unauthorized | upstreamInternal | timeout | transport
  | malformedResponse
  deriving DecidableEq

structure HistoricalPricePoint where
  bucketStart : String
  price : Option String
  status : String
  sourcePublishedAt : Option String
  sourceType : Option String
  isDerived : Option Bool
  derivationPath : Option (List String)
  deriving DecidableEq

structure HistoricalPriceSeries where
  quoteCurrency : String
  start : String
  stop : String
  granularity : String
  points : List HistoricalPricePoint
  deriving DecidableEq

structure PriceObservation where
  timestamp : String
  price : Option String
  status : String
  sourcePublishedAt : Option String
  sourceType : Option String
  isDerived : Option Bool
  derivationPath : Option (List String)
  deriving DecidableEq

namespace PriceObservation

def fromPoint (timestamp : String) : Option HistoricalPricePoint → PriceObservation
  | some point => ⟨timestamp, point.price, point.status, point.sourcePublishedAt, point.sourceType,
      point.isDerived, point.derivationPath⟩
  | none => ⟨timestamp, none, "missing", none, none, none, none⟩

end PriceObservation

def mapPriceError : PriceSignalError → SimulationError
  | .malformedResponse => .historicalPricesMalformed
  | _ => .historicalPricesUnavailable

/-- The points by their timestamps; a timestamp that stands twice is an error. -/
def byTimestamp : List HistoricalPricePoint → Except SimulationError (List HistoricalPricePoint) :=
  List.foldlM (fun seen point =>
    if seen.any (·.bucketStart == point.bucketStart) then .error .historicalPricesMalformed
    else .ok (seen ++ [point])) []

/-- The indexer's answer to a slug, a quote currency and two timestamps. -/
abbrev PriceIndexer :=
  String → String → String → String → Except PriceSignalError HistoricalPriceSeries

def loadPrices (client : Option PriceIndexer) (assetSlug : String) (window : SimulationWindow) :
    Except SimulationError (List PriceObservation) :=
  match client with
  | none => .error .historicalPricesUnavailable
  | some client => do
    let series ← (client assetSlug quoteCurrency window.startTimestamp
      window.endTimestamp).mapError mapPriceError
    if toAsciiUppercase series.quoteCurrency ≠ quoteCurrency ∨ series.granularity ≠ "1d" then
      .error .historicalPricesMalformed
    else if series.start ≠ window.startTimestamp ∨ series.stop ≠ window.endTimestamp then
      .error .historicalPricesMalformed
    else
      let points ← byTimestamp series.points
      .ok (window.timestamps.map fun timestamp =>
        .fromPoint timestamp (points.find? (·.bucketStart == timestamp)))

lemma loadPrices_timestamps {client : Option PriceIndexer} {assetSlug : String}
    {window : SimulationWindow} {prices : List PriceObservation}
    (h : loadPrices client assetSlug window = .ok prices) :
    prices.map PriceObservation.timestamp = window.timestamps := by
  unfold loadPrices at h
  split at h
  · cases h
  obtain ⟨series, -, h⟩ := bind_eq_ok.mp h
  split_ifs at h
  obtain ⟨points, -, h⟩ := bind_eq_ok.mp h
  cases h
  have htimestamp : ∀ timestamp (point : Option HistoricalPricePoint),
      (PriceObservation.fromPoint timestamp point).timestamp = timestamp := by
    intro timestamp point
    cases point <;> rfl
  simp [Function.comp_def, htimestamp]

/-! ### Indexes -/

structure RealizedYieldReserve where
  assetSlug : String
  assetSymbol : String
  underlyingAssetAddress : String
  deriving DecidableEq

structure RealizedYieldProtocol where
  adapterKind : String
  poolAddress : String
  reserves : List RealizedYieldReserve
  deriving DecidableEq

/-- `Error` of the adapter. -/
inductive AaveError
  | unsupportedAsset | invalidBlockRange | provider | invalidResponse | invalidIncomeIndex
  deriving DecidableEq

/-- A call of a contract as of a block. -/
structure EthCall where
  target : String
  data : String
  blockNumber : ℕ
  deriving DecidableEq

structure IncomeIndexObservation where
  assetSymbol : String
  underlyingAssetAddress : String
  incomeIndex : String
  deriving DecidableEq

structure AaveIndexObservation where
  timestamp : String
  blockNumber : String
  blockHash : String
  blockTimestamp : String
  incomeIndex : String
  assetSymbol : String
  underlyingAssetAddress : String
  deriving DecidableEq

/-- Bigwig, asked for blocks and for calls. The answer to a call goes by the number of calls of
contracts made before it. -/
structure Bigwig where
  blocks : Env
  ethCall : ℕ → EthCall → Option RpcValue

def strip0x (value : List Char) : Option (List Char) :=
  match value with
  | '0' :: 'x' :: rest => some rest
  | _ => none

def encodeGetReserveNormalizedIncome (address : String) : Except AaveError String :=
  let address := (strip0x address.toList).getD address.toList
  if address.length ≠ 40 ∨ ¬address.all isAsciiHexdigit then .error .invalidResponse
  else .ok (String.ofList ("0xd15e0053".toList ++ List.replicate 24 '0' ++
    address.map Char.toLower))

def decodeUint256 (value : RpcValue) : Except AaveError ℕ :=
  match value.asStr.bind fun text => strip0x text.toList with
  | none => .error .invalidResponse
  | some hex =>
    if hex.length ≠ 64 ∨ ¬hex.all isAsciiHexdigit then .error .invalidResponse
    else .ok (hex.foldl (fun value c => value * 16 + hexValue c) 0)

def incomeIndexAt (protocol : RealizedYieldProtocol) (assetSlug : String) (blockNumber : ℕ)
    (ethCall : EthCall → Option RpcValue) : Except AaveError IncomeIndexObservation :=
  if blockNumber = 0 then .error .invalidBlockRange
  else
    match protocol.reserves.find? (·.assetSlug == assetSlug) with
    | none => .error .unsupportedAsset
    | some reserve => do
      let data ← encodeGetReserveNormalizedIncome reserve.underlyingAssetAddress
      match ethCall ⟨protocol.poolAddress, data, blockNumber⟩ with
      | none => .error .provider
      | some raw =>
        let incomeIndex ← decodeUint256 raw
        if incomeIndex = 0 then .error .invalidIncomeIndex
        else .ok ⟨reserve.assetSymbol, reserve.underlyingAssetAddress, Nat.repr incomeIndex⟩

/-- The loop over the timestamps. The resolver is kept from one to the next. -/
def observeIndexes (bigwig : Bigwig) (protocol : RealizedYieldProtocol) :
    ℕ → Resolver → List String → Except SimulationError (List AaveIndexObservation)
  | _, _, [] => .ok []
  | calls, resolver, timestamp :: timestamps =>
    match atOrBefore bigwig.blocks resolver timestamp with
    | (none, _) => .error .aaveEvidenceUnavailable
    | (some block, resolver) => do
      let index ← (incomeIndexAt protocol "usdc" block.number (bigwig.ethCall calls)).mapError
        fun _ => .aaveEvidenceUnavailable
      let observations ← observeIndexes bigwig protocol (calls + 1) resolver timestamps
      .ok (⟨timestamp, Nat.repr block.number, block.hash, block.timestamp, index.incomeIndex,
        index.assetSymbol, index.underlyingAssetAddress⟩ :: observations)

/-- The protocol is what the registry has under `aave-v3`. -/
def loadAaveFactors (bigwig : Option Bigwig) (protocol : Option RealizedYieldProtocol)
    (window : SimulationWindow) : Except SimulationError (List AaveIndexObservation) :=
  match bigwig with
  | none => .error .aaveEvidenceUnavailable
  | some bigwig =>
    match protocol.filter (·.adapterKind == "aave_v3_realized_yield") with
    | none => .error .aaveEvidenceUnavailable
    | some protocol => observeIndexes bigwig protocol 0 {} window.timestamps

/-- An index as it is read: the numeral of a word that is not zero. -/
def IsIndex (text : String) : Prop := ∃ n : ℕ, 0 < n ∧ n < 2 ^ 256 ∧ text = Nat.repr n

lemma hexValue_lt {c : Char} (h : isAsciiHexdigit c = true) : hexValue c < 16 := by
  have hle : ∀ {c d : Char}, c ≤ d → c.toNat ≤ d.toNat := fun h => h
  have h0 : '0'.toNat = 48 := rfl
  have ha : 'a'.toNat = 97 := rfl
  have hf : 'f'.toNat = 102 := rfl
  have hA : 'A'.toNat = 65 := rfl
  have hF : 'F'.toNat = 70 := rfl
  simp only [isAsciiHexdigit, Bool.or_eq_true, Bool.and_eq_true, decide_eq_true_eq] at h
  unfold hexValue digitValue isAsciiDigit
  split_ifs with hdigit hlower
  · have := isDigit_iff.mp hdigit
    omega
  · have := hle hlower.2
    omega
  · rcases h with (h | h) | h
    · exact absurd h hdigit
    · exact absurd h hlower
    · have := hle h.2
      omega

lemma hex_lt {hex : List Char} (h : ∀ c ∈ hex, isAsciiHexdigit c = true) :
    hex.foldl (fun value c => value * 16 + hexValue c) 0 < 16 ^ hex.length := by
  induction hex using List.reverseRecOn with
  | nil => simp
  | append_singleton hex c ih =>
    have hc := hexValue_lt (h c (by simp))
    have ih := ih fun c hmem => h c (List.mem_append_left _ hmem)
    rw [List.foldl_append, List.length_append, List.length_singleton, pow_succ]
    simp only [List.foldl_cons, List.foldl_nil]
    omega

lemma decodeUint256_lt {value : RpcValue} {n : ℕ} (h : decodeUint256 value = .ok n) :
    n < 2 ^ 256 := by
  unfold decodeUint256 at h
  split at h
  · cases h
  rename_i hex _
  split_ifs at h with hword
  cases h
  rw [not_or, not_not, not_not] at hword
  have hlt := hex_lt (List.all_eq_true.mp hword.2)
  rw [hword.1] at hlt
  exact hlt.trans_eq (by norm_num)

lemma incomeIndexAt_isIndex {protocol : RealizedYieldProtocol} {assetSlug : String}
    {blockNumber : ℕ} {ethCall : EthCall → Option RpcValue} {index : IncomeIndexObservation}
    (h : incomeIndexAt protocol assetSlug blockNumber ethCall = .ok index) :
    IsIndex index.incomeIndex := by
  unfold incomeIndexAt at h
  split_ifs at h
  split at h
  · cases h
  obtain ⟨data, -, h⟩ := bind_eq_ok.mp h
  split at h
  · cases h
  obtain ⟨n, hn, h⟩ := bind_eq_ok.mp h
  split_ifs at h with hzero
  cases h
  exact ⟨n, Nat.pos_of_ne_zero hzero, decodeUint256_lt hn, rfl⟩

/-- There is one index for each timestamp, and each can be read. -/
lemma observeIndexes_spec {bigwig : Bigwig} {protocol : RealizedYieldProtocol} {calls : ℕ}
    {resolver : Resolver} {timestamps : List String} {observations : List AaveIndexObservation}
    (h : observeIndexes bigwig protocol calls resolver timestamps = .ok observations) :
    observations.map AaveIndexObservation.timestamp = timestamps ∧
      ∀ observation ∈ observations, IsIndex observation.incomeIndex := by
  induction timestamps generalizing calls resolver observations with
  | nil =>
    cases h
    simp
  | cons timestamp timestamps ih =>
    unfold observeIndexes at h
    split at h
    · cases h
    obtain ⟨index, hindex, h⟩ := bind_eq_ok.mp h
    obtain ⟨rest, hrest, h⟩ := bind_eq_ok.mp h
    cases h
    obtain ⟨htimestamps, hindexes⟩ := ih hrest
    refine ⟨by rw [List.map_cons, htimestamps], ?_⟩
    intro observation hmem
    rcases List.mem_cons.mp hmem with rfl | hmem
    · exact incomeIndexAt_isIndex (mapError_eq_ok.mp hindex)
    · exact hindexes observation hmem

lemma loadAaveFactors_spec {bigwig : Option Bigwig} {protocol : Option RealizedYieldProtocol}
    {window : SimulationWindow} {observations : List AaveIndexObservation}
    (h : loadAaveFactors bigwig protocol window = .ok observations) :
    observations.map AaveIndexObservation.timestamp = window.timestamps ∧
      ∀ observation ∈ observations, IsIndex observation.incomeIndex := by
  unfold loadAaveFactors at h
  split at h
  · cases h
  split at h
  · cases h
  exact observeIndexes_spec h

end MotherApi.SimulationEvidence
