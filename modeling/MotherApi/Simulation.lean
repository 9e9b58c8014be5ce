import MotherApi.Lib.Checked
import MotherApi.Lib.Drawdowns
import MotherApi.Lib.Fractions
import MotherApi.SimulationEvidence
import Mathlib.Data.List.ReduceOption
import Mathlib.Data.Rat.Defs

/-!
The simulation of a portfolio.

Capital buys an asset at the first price of the window and is worth, at each later price, what the
asset is worth then; the Aave strategy supplies the asset and is worth more by its income index.
Numbers are exact. A point whose evidence cannot be used has no value, and makes the simulation
partial; a first or last price that cannot be used makes it unsupported.
-/

namespace MotherApi.Simulation

open MotherApi.Lib MotherApi.Lib.Fallible MotherApi.Lib.Checked MotherApi.Lib.Fractions
open MotherApi.Strings MotherApi.SimulationTime MotherApi.Timestamps MotherApi.SimulationTexts
open MotherApi.SimulationWindows MotherApi.SimulationEvidence

/-! ### Decimals -/

/-- What the simulation takes from decimal arithmetic: the number that a text denotes, and
powers. Decimals are exact rationals here. A `D512` is also read from the names of NaN and of the
infinities and with exponents out of range, on which later arithmetic panics; these, and powers
of a negative base, are outside the model. -/
structure Decimals where
  decimal : String → Option ℚ
  pow : ℚ → ℚ → ℚ

/-- Numerals are read as their numbers, and so is the length of a year. -/
structure Decimals.Lawful (D : Decimals) : Prop where
  natural : ∀ n : ℕ, n < 2 ^ 256 → D.decimal (Nat.repr n) = some (n : ℚ)
  year : D.decimal "365.2425" = some (3652425 / 10000)

lemma Decimals.Lawful.zero {D : Decimals} (hD : D.Lawful) : D.decimal "0" = some 0 := by
  have hrepr : Nat.repr 0 = "0" := rfl
  rw [← hrepr, hD.natural 0 (by norm_num), Nat.cast_zero]

lemma Decimals.Lawful.one {D : Decimals} (hD : D.Lawful) : D.decimal "1" = some 1 := by
  have hrepr : Nat.repr 1 = "1" := rfl
  rw [← hrepr, hD.natural 1 (by norm_num), Nat.cast_one]

/-- Decimals without signs and exponents, read digit by digit. -/
def plainDecimal (text : String) : Option ℚ :=
  match text.toList.span (· != '.') with
  | (whole, []) => (parseDigits whole).map fun (n : ℕ) => (n : ℚ)
  | (whole, _ :: rest) => do
    let n ← parseDigits whole
    let _ ← parseDigits rest
    return (n : ℚ) + fraction rest

/-- Powers are left out of it. -/
def plainDecimals : Decimals := ⟨plainDecimal, fun base _ => base⟩

lemma plainDecimals_lawful : plainDecimals.Lawful := by
  constructor
  · intro n _
    have hdigits := allDigits_repr n
    have hpoint : ∀ c ∈ (Nat.repr n).toList, (c != '.') = true := by
      intro c hc
      rw [bne_iff_ne]
      rintro rfl
      exact absurd (hdigits '.' hc) (by decide)
    have hne : (Nat.repr n).toList ≠ [] := by
      rw [Nat.toList_repr]
      exact Nat.toDigits_ne_nil
    have hparse := parseDigits_eq_some.mpr ⟨hne, hdigits, number_repr n⟩
    simp only [plainDecimals, plainDecimal, Lib.Splits.span_self hpoint, hparse, Option.map_some]
  · decide +kernel

/-- Nothing stops a simulation but a panic. -/
abbrev Runs (α : Type) := Except (Halt Empty) α

def parsePositiveDecimal (D : Decimals) (value : String) : Except SimulationError ℚ :=
  if value.isEmpty ∨ value.toList.any (fun c => !(isAsciiDigit c || c == '.')) ∨
      1 < value.toList.count '.' then .error .invalidInitialCapital
  else
    match D.decimal value with
    | none => .error .invalidInitialCapital
    | some parsed => if 0 < parsed then .ok parsed else .error .invalidInitialCapital

/-! ### Strategies and results -/

inductive Strategy
  | btcHold | ethHold | aaveUsdcSupply
  deriving DecidableEq

namespace Strategy

def parse (value : String) : Except SimulationError Strategy :=
  let value := toAsciiLowercase (trim value)
  if value = "btc-hold" then .ok .btcHold
  else if value = "eth-hold" then .ok .ethHold
  else if value = "aave-usdc-supply" then .ok .aaveUsdcSupply
  else .error .unsupportedStrategy

def slug : Strategy → String
  | .btcHold => "btc-hold"
  | .ethHold => "eth-hold"
  | .aaveUsdcSupply => "aave-usdc-supply"

def version (_ : Strategy) : String := "v1"

def priceAsset : Strategy → String
  | .btcHold => "bitcoin"
  | .ethHold => "ethereum"
  | .aaveUsdcSupply => "usdc"

def positionKind : Strategy → String
  | .btcHold | .ethHold => "spot_asset"
  | .aaveUsdcSupply => "aave_usdc_supply"

end Strategy

structure Snapshot where
  timestamp : String
  positionKind : String
  assetSlug : String
  value : Option ℚ
  quoteCurrency : String
  priceStatus : String
  incomeIndex : Option String
  deriving DecidableEq

structure Components where
  priceAppreciation : ℚ
  yieldAmount : ℚ
  grossTotal : ℚ
  deriving DecidableEq

structure Metrics where
  initialValue : ℚ
  finalValue : ℚ
  absoluteReturn : ℚ
  percentageReturn : ℚ
  annualizedReturn : Option ℚ
  maximumDrawdown : Option ℚ
  components : Components
  deriving DecidableEq

structure Operation where
  timestamp : String
  operationType : String
  fromPosition : String
  toPosition : String
  amount : ℚ
  fees : String
  reason : String
  deriving DecidableEq

/-- The status `complete` or `partial` of a simulation with values. -/
inductive Status
  | complete | incomplete
  deriving DecidableEq

structure Calculation where
  status : Status
  strategySlug : String
  strategyVersion : String
  metrics : Metrics
  operations : List Operation
  snapshots : List Snapshot
  deriving DecidableEq

/-- The strategy is told for missing prices only. -/
inductive SimulationResult
  | unsupported (reason : String) (strategy : Option (String × String))
  | calculated (calculation : Calculation)
  deriving DecidableEq

/-! ### The code -/

section

variable (D : Decimals)

/-- The step of `max_drawdown`, on the peak and the drawdown so far. -/
def drawdownStep (state : ℚ × ℚ) (value : ℚ) : Runs (ℚ × ℚ) := do
  let peak := if state.1 < value then value else state.1
  let current ← div (value - peak) peak
  return (peak, if current < state.2 then current else state.2)

def maxDrawdown (values : List (Option ℚ)) : Runs ℚ := do
  let peak ← expect (← getAt values 0)
  let drawdown ← expect (D.decimal "0")
  let (_, drawdown) ← values.reduceOption.foldlM drawdownStep (peak, drawdown)
  return drawdown

def annualizedReturn (finalValue initial : ℚ) (days : ℤ) : Runs ℚ := do
  let year ← expect (D.decimal "365.2425")
  let days ← expect (D.decimal (toString days))
  let growth ← div finalValue initial
  let exponent ← div year days
  let one ← expect (D.decimal "1")
  return D.pow growth exponent - one

def usablePrice (point : PriceObservation) : Option ℚ := point.price.bind D.decimal

def usableIndex (index : AaveIndexObservation) : Option ℚ := D.decimal index.incomeIndex

/-- What the loop of `simulate` has collected. -/
structure Progress where
  isPartial : Bool
  snapshots : List Snapshot
  values : List (Option ℚ)

/-- What the loop of `simulate` reads and does not change. -/
structure Setting where
  strategy : Strategy
  initial : ℚ
  startPrice : ℚ
  indexes : List AaveIndexObservation
  startIndex : Option ℚ

def pointValue (setting : Setting) (offset : ℕ) (point : PriceObservation) : Runs (Option ℚ) :=
  match usablePrice D point with
  | none => .ok none
  | some price => do
    let value ← div (setting.initial * price) setting.startPrice
    if setting.strategy = .aaveUsdcSupply then
      match setting.indexes[offset]?.bind (usableIndex D) with
      | none => .ok none
      | some factor => do
        let startIndex ← expect setting.startIndex
        let value ← div (value * factor) startIndex
        .ok (some value)
    else .ok (some value)

/-- The price was carried over from another day, or there is none. -/
def isCarried (status : String) : Bool :=
  decide ("carry".toList <:+: status.toList) || status == "missing"

def snapshot (setting : Setting) (offset : ℕ) (point : PriceObservation) (value : Option ℚ) :
    Snapshot where
  timestamp := point.timestamp
  positionKind := setting.strategy.positionKind
  assetSlug := setting.strategy.priceAsset
  value := value
  quoteCurrency := quoteCurrency
  priceStatus := point.status
  incomeIndex := setting.indexes[offset]?.map AaveIndexObservation.incomeIndex

def pointStep (setting : Setting) (progress : Progress) (entry : PriceObservation × ℕ) :
    Runs Progress := do
  let (point, offset) := entry
  let value ← pointValue D setting offset point
  return ⟨progress.isPartial || value.isNone || isCarried point.status,
    progress.snapshots ++ [snapshot setting offset point value], progress.values ++ [value]⟩

def components (strategy : Strategy) (initial startPrice finalValue : ℚ) (finalPrice : Option ℚ) :
    Runs Components :=
  if strategy = .aaveUsdcSupply then do
    let finalPrice ← expect finalPrice
    let principalAtFinalPrice ← div (initial * finalPrice) startPrice
    return ⟨principalAtFinalPrice - initial, finalValue - principalAtFinalPrice,
      finalValue - initial⟩
  else return ⟨finalValue - initial, 0, finalValue - initial⟩

def operations (window : SimulationWindow) (strategy : Strategy) (initial : ℚ) : List Operation :=
  let reason := strategy.slug ++ "@v1 initial allocation"
  let buy : Operation := ⟨window.startTimestamp, "buy", "usd_cash", strategy.priceAsset, initial,
    "unmodeled", reason⟩
  if strategy = .aaveUsdcSupply then
    [buy, ⟨window.startTimestamp, "deposit", "usdc", "aave_usdc_supply", initial, "unmodeled",
      reason⟩]
  else [buy]

/-- `condition.then(|| figure)`. -/
def thenRun (condition : Bool) (figure : Runs ℚ) : Runs (Option ℚ) :=
  if condition then figure.map some else .ok none

/-- What follows the loop. -/
def report (window : SimulationWindow) (setting : Setting) (finalPrice : Option ℚ)
    (progress : Progress) : Runs Calculation := do
  let finalValue ← expect progress.values.getLast?.join
  let absolute := finalValue - setting.initial
  let percent ← div absolute setting.initial
  let drawdown ← thenRun (!progress.isPartial) (maxDrawdown D progress.values)
  let annualized ← thenRun (!progress.isPartial && decide (30 ≤ window.days))
    (annualizedReturn D finalValue setting.initial window.days)
  let components ← components setting.strategy setting.initial setting.startPrice finalValue
    finalPrice
  return {
    status := if progress.isPartial then .incomplete else .complete
    strategySlug := setting.strategy.slug
    strategyVersion := setting.strategy.version
    metrics := ⟨setting.initial, finalValue, absolute, percent, annualized, drawdown, components⟩
    operations := operations window setting.strategy setting.initial
    snapshots := progress.snapshots }

/-- What follows the checks of the evidence. -/
def calculate (window : SimulationWindow) (setting : Setting) (prices : List PriceObservation)
    (finalPrice : Option ℚ) : Runs Calculation := do
  let progress ← prices.zipIdx.foldlM (pointStep D setting) ⟨false, [], []⟩
  report D window setting finalPrice progress

def simulate (window : SimulationWindow) (strategy : Strategy) (initial : ℚ)
    (prices : List PriceObservation) (indexes : Option (List AaveIndexObservation)) :
    Runs SimulationResult :=
  let startPrice := prices.head?.bind (usablePrice D)
  let finalPrice := prices.getLast?.bind (usablePrice D)
  if startPrice.isNone ∨ finalPrice.isNone then
    .ok (.unsupported "required_start_or_final_price_evidence_unavailable"
      (some (strategy.slug, strategy.version)))
  else do
    let startPrice ← expect startPrice
    let indexes := indexes.getD []
    let startIndex := indexes.head?.bind (usableIndex D)
    if strategy = .aaveUsdcSupply ∧ startIndex.isNone then
      .ok (.unsupported "required_aave_index_evidence_unavailable" none)
    else (calculate D window ⟨strategy, initial, startPrice, indexes, startIndex⟩ prices
      finalPrice).map .calculated

end

/-! ### What the loop collects -/

section

variable {D : Decimals} {setting : Setting} {window : SimulationWindow}

/-- What the capital is worth at a point, where the evidence can be used. -/
def worth (D : Decimals) (setting : Setting) (offset : ℕ) (point : PriceObservation) :
    Option ℚ := do
  let price ← usablePrice D point
  let value := setting.initial * price / setting.startPrice
  if setting.strategy = .aaveUsdcSupply then
    let factor ← setting.indexes[offset]?.bind (usableIndex D)
    let startIndex ← setting.startIndex
    return value * factor / startIndex
  else return value

/-- The evidence of the first point can be divided by. -/
structure Setting.Sound (setting : Setting) : Prop where
  startPrice : setting.startPrice ≠ 0
  startIndex : setting.strategy = .aaveUsdcSupply → ∃ x, setting.startIndex = some x ∧ x ≠ 0

lemma pointValue_eq (h : setting.Sound) (offset : ℕ) (point : PriceObservation) :
    pointValue D setting offset point = .ok (worth D setting offset point) := by
  unfold pointValue worth
  cases usablePrice D point with
  | none => rfl
  | some price =>
    simp only [div_of_ne h.startPrice, bind_ok]
    by_cases hstrategy : setting.strategy = .aaveUsdcSupply
    · obtain ⟨x, hx, hne⟩ := h.startIndex hstrategy
      cases setting.indexes[offset]?.bind (usableIndex D) with
      | none => simp [hstrategy]
      | some factor => simp [hstrategy, hx, expect, div_of_ne hne]
    · simp [hstrategy]

/-- There is a value at the point, and the price was not carried over. -/
def isWhole (D : Decimals) (setting : Setting) (entry : PriceObservation × ℕ) : Bool :=
  (worth D setting entry.2 entry.1).isSome && !isCarried entry.1.status

/-- The loop collects a value and a snapshot for each point. -/
lemma loop_eq (h : setting.Sound) (entries : List (PriceObservation × ℕ)) :
    entries.foldlM (pointStep D setting) ⟨false, [], []⟩ =
      .ok ⟨!entries.all (isWhole D setting),
        entries.map fun entry => snapshot setting entry.2 entry.1 (worth D setting entry.2 entry.1),
        entries.map fun entry => worth D setting entry.2 entry.1⟩ := by
  induction entries using List.reverseRecOn with
  | nil => rfl
  | append_singleton entries entry ih =>
    rw [List.foldlM_append, ih, bind_ok, List.foldlM_cons]
    simp only [pointStep, pointValue_eq h, bind_ok]
    simp [isWhole, pure, Except.pure, bind, Except.bind, Bool.or_assoc]

lemma drawdownStep_eq {peak : ℚ} (h : 0 < peak) (drawdown value : ℚ) :
    drawdownStep (peak, drawdown) value = .ok (Drawdowns.step (peak, drawdown) value) := by
  have hpeak : (if peak < value then value else peak) = max peak value := by
    rw [max_def]
    split_ifs <;> grind
  have hpos : max peak value ≠ 0 := (lt_max_of_lt_left h).ne'
  have hmin : ∀ x : ℚ, (if x < drawdown then x else drawdown) = min drawdown x := by
    intro x
    rw [min_def]
    split_ifs <;> grind
  rw [drawdownStep]
  simp only [hpeak, div_of_ne hpos, bind_ok, hmin]
  rfl

/-- A peak above zero stays above zero. -/
lemma foldlM_drawdownStep (values : List ℚ) {peak : ℚ} (h : 0 < peak) (drawdown : ℚ) :
    values.foldlM drawdownStep (peak, drawdown) =
      .ok (values.foldl Drawdowns.step (peak, drawdown)) := by
  induction values generalizing peak drawdown with
  | nil => rfl
  | cons value values ih =>
    rw [List.foldlM_cons, drawdownStep_eq h, bind_ok]
    exact ih (lt_max_of_lt_left h) _

lemma maxDrawdown_eq (hD : D.Lawful) {values : List (Option ℚ)} {first : ℚ}
    (hfirst : values[0]? = some (some first)) (h : 0 < first) :
    maxDrawdown D values = .ok (values.reduceOption.foldl Drawdowns.step (first, 0)).2 := by
  simp only [maxDrawdown, getAt, hfirst, expect, bind_ok, hD.zero, foldlM_drawdownStep _ h]
  rfl

lemma exists_annualizedReturn (hD : D.Lawful) {finalValue initial : ℚ} {days : ℤ}
    (hinitial : initial ≠ 0) (hdays : 1 ≤ days) (hmax : days ≤ 366) :
    ∃ value, annualizedReturn D finalValue initial days = .ok value := by
  obtain ⟨n, rfl⟩ := Int.eq_ofNat_of_zero_le (show 0 ≤ days by omega)
  have hn : D.decimal (toString (n : ℤ)) = some (n : ℚ) := hD.natural n (by omega)
  have hne : (n : ℚ) ≠ 0 := by
    rw [Nat.cast_ne_zero]
    omega
  simp only [annualizedReturn, hD.year, hn, hD.one, expect, bind_ok, div_of_ne hinitial,
    div_of_ne hne]
  exact ⟨_, rfl⟩

end

end MotherApi.Simulation
