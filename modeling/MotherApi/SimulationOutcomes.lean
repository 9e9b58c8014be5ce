import MotherApi.Simulation
import Mathlib.Tactic.FieldSimp

/-!
What a simulation says, and when it says it.

A simulation that is supported by its evidence has a value for each point that has evidence, and
figures that follow from the last value. It needs the evidence of the last point for that. A
missing last price makes it unsupported; the last index it relies on, since the indexes are loaded
before it, one for each point, or it is not run.
-/

namespace MotherApi.SimulationOutcomes

open MotherApi.Lib.Fallible MotherApi.Lib.Checked MotherApi.SimulationWindows
open MotherApi.SimulationEvidence MotherApi.Simulation

/-! ### The evidence of a point -/

section

variable (D : Decimals) (strategy : Strategy) (initial : ℚ) (prices : List PriceObservation)
  (indexes : Option (List AaveIndexObservation))

def priceAt (i : ℕ) : Option ℚ := prices[i]?.bind (usablePrice D)

def indexAt (i : ℕ) : Option ℚ := (indexes.getD [])[i]?.bind (usableIndex D)

/-- The capital at the price of a point, times the growth of the index for the Aave strategy. -/
def valueAt (i : ℕ) : Option ℚ := do
  let price ← priceAt D prices i
  let startPrice ← priceAt D prices 0
  if strategy = .aaveUsdcSupply then
    let index ← indexAt D indexes i
    let startIndex ← indexAt D indexes 0
    return initial * price / startPrice * (index / startIndex)
  else return initial * price / startPrice

/-- The evidence that a simulation cannot do without is missing. -/
def Unsupported : Prop :=
  priceAt D prices 0 = none ∨ priceAt D prices (prices.length - 1) = none ∨
    strategy = .aaveUsdcSupply ∧ indexAt D indexes 0 = none

/-- The evidence of every point can be used and was not carried over. -/
def Whole : Prop :=
  ∀ i point, prices[i]? = some point → (priceAt D prices i).isSome ∧
    (strategy = .aaveUsdcSupply → (indexAt D indexes i).isSome) ∧ point.status ≠ "missing" ∧
    ¬"carry".toList <:+: point.status.toList

/-- The figures of a simulation follow from its evidence. -/
structure Follows (window : SimulationWindow) (calculation : Calculation) : Prop where
  complete_iff : calculation.status = .complete ↔ Whole D strategy prices indexes
  snapshots_length : calculation.snapshots.length = prices.length
  snapshots_value : ∀ i snapshot, calculation.snapshots[i]? = some snapshot →
    snapshot.value = valueAt D strategy initial prices indexes i
  finalValue : valueAt D strategy initial prices indexes (prices.length - 1) =
    some calculation.metrics.finalValue
  absolute : calculation.metrics.absoluteReturn = calculation.metrics.finalValue - initial
  percentage : calculation.metrics.percentageReturn = calculation.metrics.absoluteReturn / initial
  drawdown_iff : calculation.metrics.maximumDrawdown.isSome ↔ calculation.status = .complete
  annualized_iff : calculation.metrics.annualizedReturn.isSome ↔
    calculation.status = .complete ∧ 30 ≤ window.days
  parts : calculation.metrics.components.priceAppreciation +
    calculation.metrics.components.yieldAmount = calculation.metrics.components.grossTotal
  gross : calculation.metrics.components.grossTotal = calculation.metrics.finalValue - initial

/-- The outcome of a simulation matches its evidence. -/
structure MatchesEvidence (window : SimulationWindow) : Prop where
  unsupported_iff : (∃ reason told, simulate D window strategy initial prices indexes =
    .ok (.unsupported reason told)) ↔ Unsupported D strategy prices indexes
  calculated : ¬Unsupported D strategy prices indexes → ∃ calculation,
    simulate D window strategy initial prices indexes = .ok (.calculated calculation) ∧
      Follows D strategy initial prices indexes window calculation

/-- The setting of the loop, from the first price. -/
def settingOf (startPrice : ℚ) : Setting :=
  ⟨strategy, initial, startPrice, indexes.getD [], indexAt D indexes 0⟩

end

section

variable {D : Decimals} {strategy : Strategy} {initial : ℚ} {prices : List PriceObservation}
  {indexes : Option (List AaveIndexObservation)} {window : SimulationWindow} {startPrice : ℚ}

lemma head?_eq : prices.head?.bind (usablePrice D) = priceAt D prices 0 := by
  rw [priceAt, List.head?_eq_getElem?]

lemma getLast?_eq :
    prices.getLast?.bind (usablePrice D) = priceAt D prices (prices.length - 1) := by
  rw [priceAt, List.getLast?_eq_getElem?]

/-- What the loop finds a point worth is its value. -/
lemma worth_eq (hstart : priceAt D prices 0 = some startPrice) {i : ℕ} {point : PriceObservation}
    (hpoint : prices[i]? = some point) :
    worth D (settingOf D strategy initial indexes startPrice) i point =
      valueAt D strategy initial prices indexes i := by
  have hprice : priceAt D prices i = usablePrice D point := by
    rw [priceAt, hpoint, Option.bind_some]
  unfold worth valueAt
  rw [hprice, hstart]
  cases usablePrice D point with
  | none => rfl
  | some price =>
    by_cases hstrategy : strategy = .aaveUsdcSupply
    · simp only [settingOf, hstrategy, if_true, Option.bind_eq_bind, Option.bind_some]
      rw [← indexAt]
      cases indexAt D indexes i <;> cases indexAt D indexes 0 <;> simp [mul_div_assoc]
    · simp [settingOf, hstrategy]

lemma valueAt_isSome (hstart : priceAt D prices 0 = some startPrice)
    (hindex : strategy = .aaveUsdcSupply → (indexAt D indexes 0).isSome) (i : ℕ) :
    (valueAt D strategy initial prices indexes i).isSome ↔ (priceAt D prices i).isSome ∧
      (strategy = .aaveUsdcSupply → (indexAt D indexes i).isSome) := by
  unfold valueAt
  rw [hstart]
  by_cases hstrategy : strategy = .aaveUsdcSupply
  · obtain ⟨startIndex, hstartIndex⟩ := Option.isSome_iff_exists.mp (hindex hstrategy)
    rw [hstartIndex]
    cases priceAt D prices i <;> cases indexAt D indexes i <;> simp [hstrategy]
  · cases priceAt D prices i <;> simp [hstrategy]

lemma valueAt_zero (hstart : priceAt D prices 0 = some startPrice) (hne : startPrice ≠ 0)
    (hindex : strategy = .aaveUsdcSupply → ∃ x, indexAt D indexes 0 = some x ∧ x ≠ 0) :
    valueAt D strategy initial prices indexes 0 = some initial := by
  unfold valueAt
  rw [hstart]
  by_cases hstrategy : strategy = .aaveUsdcSupply
  · obtain ⟨x, hx, hx0⟩ := hindex hstrategy
    simp [hstrategy, hx, mul_div_cancel_right₀ initial hne, div_self hx0]
  · simp [hstrategy, mul_div_cancel_right₀ initial hne]

lemma sound_settingOf (hne : startPrice ≠ 0)
    (hindex : strategy = .aaveUsdcSupply → ∃ x, indexAt D indexes 0 = some x ∧ x ≠ 0) :
    (settingOf D strategy initial indexes startPrice).Sound :=
  ⟨hne, hindex⟩

/-! ### What the loop has collected -/

lemma values_getElem? (hstart : priceAt D prices 0 = some startPrice) (i : ℕ) :
    (prices.zipIdx.map fun entry => worth D (settingOf D strategy initial indexes startPrice)
        entry.2 entry.1)[i]? =
      prices[i]?.map fun _ => valueAt D strategy initial prices indexes i := by
  rw [List.getElem?_map, List.getElem?_zipIdx]
  cases hpoint : prices[i]? with
  | none => rfl
  | some point => simp [worth_eq hstart hpoint]

lemma length_pos_of_priceAt (hstart : priceAt D prices 0 = some startPrice) :
    0 < prices.length := by
  by_contra hnot
  have hnil : prices = [] := List.length_eq_zero_iff.mp (by omega)
  subst hnil
  cases hstart

lemma values_getLast? (hstart : priceAt D prices 0 = some startPrice) :
    (prices.zipIdx.map fun entry => worth D (settingOf D strategy initial indexes startPrice)
        entry.2 entry.1).getLast?.join =
      valueAt D strategy initial prices indexes (prices.length - 1) := by
  have hpos := length_pos_of_priceAt hstart
  rw [List.getLast?_eq_getElem?, values_getElem? hstart, List.length_map, List.length_zipIdx,
    List.getElem?_eq_getElem (by omega)]
  rfl

lemma isCarried_iff {status : String} :
    isCarried status = true ↔ "carry".toList <:+: status.toList ∨ status = "missing" := by
  simp [isCarried]

/-- The loop has found everything exactly if the evidence is whole. -/
lemma all_isWhole_iff (hstart : priceAt D prices 0 = some startPrice)
    (hindex : strategy = .aaveUsdcSupply → (indexAt D indexes 0).isSome) :
    prices.zipIdx.all (isWhole D (settingOf D strategy initial indexes startPrice)) = true ↔
      Whole D strategy prices indexes := by
  have hentry : ∀ i point, prices[i]? = some point →
      (isWhole D (settingOf D strategy initial indexes startPrice) (point, i) = true ↔
        (priceAt D prices i).isSome ∧ (strategy = .aaveUsdcSupply → (indexAt D indexes i).isSome) ∧
          point.status ≠ "missing" ∧ ¬"carry".toList <:+: point.status.toList) := by
    intro i point hpoint
    have hsome := @valueAt_isSome D strategy initial prices indexes startPrice hstart hindex i
    have hcarried := @isCarried_iff point.status
    rw [isWhole, worth_eq hstart hpoint, Bool.and_eq_true, hsome, Bool.not_eq_true',
      ← Bool.not_eq_true, hcarried, not_or]
    tauto
  rw [List.all_eq_true]
  constructor
  · intro h i point hpoint
    exact (hentry i point hpoint).mp (h (point, i) (List.mem_zipIdx_iff_getElem?.mpr hpoint))
  · rintro h ⟨point, i⟩ hmem
    have hpoint := List.mem_zipIdx_iff_getElem?.mp hmem
    exact (hentry i point hpoint).mpr (h i point hpoint)

/-! ### The figures -/

lemma exists_components (hne : startPrice ≠ 0) (finalValue finalPrice : ℚ) :
    ∃ parts, components strategy initial startPrice finalValue (some finalPrice) = .ok parts ∧
      parts.priceAppreciation + parts.yieldAmount = parts.grossTotal ∧
      parts.grossTotal = finalValue - initial := by
  unfold components
  by_cases hstrategy : strategy = .aaveUsdcSupply
  · simp only [hstrategy, if_true, expect, bind_ok, div_of_ne hne]
    exact ⟨_, rfl, by ring, rfl⟩
  · simp only [hstrategy, if_false]
    exact ⟨_, rfl, add_zero _, rfl⟩

lemma exists_thenRun (condition : Bool) {figure : Runs ℚ} (h : ∃ value, figure = .ok value) :
    ∃ result, thenRun condition figure = .ok result ∧ (result.isSome ↔ condition = true) := by
  obtain ⟨value, rfl⟩ := h
  cases condition with
  | false => exact ⟨none, rfl, by simp⟩
  | true => exact ⟨some value, rfl, by simp⟩

/-- The figures follow from what the loop has collected. -/
structure Reported (window : SimulationWindow) (setting : Setting) (progress : Progress)
    (calculation : Calculation) : Prop where
  complete_iff : calculation.status = .complete ↔ progress.isPartial = false
  snapshots : calculation.snapshots = progress.snapshots
  finalValue : progress.values.getLast?.join = some calculation.metrics.finalValue
  absolute : calculation.metrics.absoluteReturn =
    calculation.metrics.finalValue - setting.initial
  percentage : calculation.metrics.percentageReturn =
    calculation.metrics.absoluteReturn / setting.initial
  drawdown_iff : calculation.metrics.maximumDrawdown.isSome ↔ progress.isPartial = false
  annualized_iff : calculation.metrics.annualizedReturn.isSome ↔
    progress.isPartial = false ∧ 30 ≤ window.days
  parts : calculation.metrics.components.priceAppreciation +
    calculation.metrics.components.yieldAmount = calculation.metrics.components.grossTotal
  gross : calculation.metrics.components.grossTotal =
    calculation.metrics.finalValue - setting.initial

lemma exists_report (hD : D.Lawful) (hdays : 1 ≤ window.days ∧ window.days ≤ 366)
    {setting : Setting} (hinitial : 0 < setting.initial) (hne : setting.startPrice ≠ 0)
    {progress : Progress} (hfirst : progress.values[0]? = some (some setting.initial))
    {finalValue : ℚ} (hlast : progress.values.getLast?.join = some finalValue) (finalPrice : ℚ) :
    ∃ calculation, report D window setting (some finalPrice) progress = .ok calculation ∧
      Reported window setting progress calculation := by
  obtain ⟨drawdown, hdrawdown, hdrawdownSome⟩ :=
    exists_thenRun (!progress.isPartial) ⟨_, maxDrawdown_eq hD hfirst hinitial⟩
  obtain ⟨annualized, hannualized, hannualizedSome⟩ :=
    exists_thenRun (!progress.isPartial && decide (30 ≤ window.days))
      (@exists_annualizedReturn D hD finalValue _ _ hinitial.ne' hdays.1 hdays.2)
  obtain ⟨parts, hparts, hsum, hgross⟩ :=
    @exists_components setting.strategy setting.initial setting.startPrice hne finalValue finalPrice
  unfold report
  simp only [hlast, expect, bind_ok, div_of_ne hinitial.ne', hdrawdown, hannualized, hparts]
  refine ⟨_, rfl, ?_, rfl, hlast, rfl, rfl, ?_, ?_, hsum, hgross⟩
  · cases progress.isPartial <;> simp
  · simpa using hdrawdownSome
  · simpa using hannualizedSome

/-- Where the last point has a value, the figures follow from the evidence. -/
lemma exists_calculate (hD : D.Lawful) (hdays : 1 ≤ window.days ∧ window.days ≤ 366)
    (hinitial : 0 < initial) (hstart : priceAt D prices 0 = some startPrice)
    (hne : startPrice ≠ 0)
    (hindex : strategy = .aaveUsdcSupply → ∃ x, indexAt D indexes 0 = some x ∧ x ≠ 0)
    {finalPrice finalValue : ℚ}
    (hvalue : valueAt D strategy initial prices indexes (prices.length - 1) = some finalValue) :
    ∃ calculation, calculate D window (settingOf D strategy initial indexes startPrice) prices
        (some finalPrice) = .ok calculation ∧
      Follows D strategy initial prices indexes window calculation := by
  have hsome : strategy = .aaveUsdcSupply → (indexAt D indexes 0).isSome := fun hstrategy => by
    obtain ⟨x, hx, -⟩ := hindex hstrategy
    rw [hx]
    rfl
  have hwhole := @all_isWhole_iff D strategy initial prices indexes startPrice hstart hsome
  have hloop := @loop_eq D _ (@sound_settingOf D strategy initial indexes startPrice hne hindex)
    prices.zipIdx
  have hlast := (@values_getLast? D strategy initial prices indexes startPrice hstart).trans hvalue
  have hfirst : (prices.zipIdx.map fun entry =>
      worth D (settingOf D strategy initial indexes startPrice) entry.2 entry.1)[0]? =
        some (some initial) := by
    rw [values_getElem? hstart, valueAt_zero hstart hne hindex,
      List.getElem?_eq_getElem (length_pos_of_priceAt hstart)]
    rfl
  unfold calculate
  rw [hloop, bind_ok]
  obtain ⟨calculation, hreport, hreported⟩ := @exists_report D window hD hdays
    (settingOf D strategy initial indexes startPrice) hinitial hne ⟨_, _, _⟩ hfirst _ hlast
    finalPrice
  have hcomplete : calculation.status = .complete ↔ Whole D strategy prices indexes := by
    rw [hreported.complete_iff, ← hwhole, Bool.not_eq_false']
  refine ⟨calculation, hreport, hcomplete, ?_, ?_, ?_, hreported.absolute, hreported.percentage,
    ?_, ?_, hreported.parts, hreported.gross⟩
  · rw [hreported.snapshots, List.length_map, List.length_zipIdx]
  · intro i snapshot hsnapshot
    rw [hreported.snapshots, List.getElem?_map, List.getElem?_zipIdx] at hsnapshot
    cases hpoint : prices[i]? with
    | none => simp [hpoint] at hsnapshot
    | some point =>
      simp only [hpoint, Option.map_some, zero_add, Option.some.injEq] at hsnapshot
      rw [← hsnapshot]
      exact worth_eq hstart hpoint
  · rw [← hreported.finalValue]
    exact (values_getLast? hstart).symm
  · rw [hreported.drawdown_iff, hreported.complete_iff]
  · rw [hreported.annualized_iff, hreported.complete_iff]

/-- A first price of zero is divided by. -/
lemma calculate_zero (hstart : priceAt D prices 0 = some 0) (finalPrice : Option ℚ) :
    calculate D window (settingOf D strategy initial indexes 0) prices finalPrice =
      .error .panic := by
  cases prices with
  | nil => cases hstart
  | cons point prices =>
    have hprice : usablePrice D point = some 0 := by simpa [priceAt] using hstart
    have hvalue : pointValue D (settingOf D strategy initial indexes 0) 0 point =
        .error .panic := by
      rw [pointValue, hprice]
      simp [settingOf, div, bind, Except.bind]
    rw [calculate, List.zipIdx_cons, List.foldlM_cons, pointStep, hvalue]
    rfl

/-! ### The outcome -/

lemma simulate_unsupported (h : Unsupported D strategy prices indexes) :
    ∃ reason told, simulate D window strategy initial prices indexes =
      .ok (.unsupported reason told) := by
  unfold simulate
  simp only [head?_eq, getLast?_eq]
  by_cases hprices : (priceAt D prices 0).isNone ∨ (priceAt D prices (prices.length - 1)).isNone
  · exact ⟨_, _, if_pos hprices⟩
  · rw [if_neg hprices]
    rw [not_or, Option.isNone_iff_eq_none, Option.isNone_iff_eq_none] at hprices
    obtain ⟨startPrice, hstart⟩ := Option.ne_none_iff_exists'.mp hprices.1
    have haave : strategy = .aaveUsdcSupply ∧
        (((indexes.getD []).head?.bind (usableIndex D)).isNone = true) := by
      rcases h with h | h | h
      · exact absurd h hprices.1
      · exact absurd h hprices.2
      · rw [List.head?_eq_getElem?, ← indexAt, h.2]
        exact ⟨h.1, rfl⟩
    simp only [hstart, expect, bind_ok, haave]
    exact ⟨_, _, if_pos ⟨trivial, trivial⟩⟩

lemma simulate_supported (h : ¬Unsupported D strategy prices indexes) :
    ∃ startPrice finalPrice, priceAt D prices 0 = some startPrice ∧
      priceAt D prices (prices.length - 1) = some finalPrice ∧
      (strategy = .aaveUsdcSupply → (indexAt D indexes 0).isSome) ∧
      simulate D window strategy initial prices indexes =
        (calculate D window (settingOf D strategy initial indexes startPrice) prices
          (some finalPrice)).map .calculated := by
  unfold Unsupported at h
  rw [not_or, not_or, not_and] at h
  obtain ⟨startPrice, hstart⟩ := Option.ne_none_iff_exists'.mp h.1
  obtain ⟨finalPrice, hfinal⟩ := Option.ne_none_iff_exists'.mp h.2.1
  have hindex : strategy = .aaveUsdcSupply → (indexAt D indexes 0).isSome := fun hstrategy =>
    Option.isSome_iff_ne_none.mpr (h.2.2 hstrategy)
  refine ⟨startPrice, finalPrice, hstart, hfinal, hindex, ?_⟩
  have hnot : ¬(strategy = .aaveUsdcSupply ∧ (indexAt D indexes 0).isNone = true) := by
    rintro ⟨hstrategy, hnone⟩
    rw [Option.isNone_iff_eq_none] at hnone
    exact h.2.2 hstrategy hnone
  have hhead : (indexes.getD []).head?.bind (usableIndex D) = indexAt D indexes 0 := by
    rw [indexAt, List.head?_eq_getElem?]
  unfold simulate
  simp only [head?_eq, getLast?_eq, hstart, hfinal, hhead, expect, bind_ok, Option.isNone_some,
    Bool.false_eq_true, or_self, if_false, if_neg hnot]
  rfl

lemma unsupported_of_simulate {reason : String} {told : Option (String × String)}
    (h : simulate D window strategy initial prices indexes = .ok (.unsupported reason told)) :
    Unsupported D strategy prices indexes := by
  by_contra hsupported
  obtain ⟨startPrice, finalPrice, -, -, -, hsimulate⟩ :=
    @simulate_supported D strategy initial prices indexes window hsupported
  rw [hsimulate, map_eq_ok] at h
  obtain ⟨calculation, -, hresult⟩ := h
  cases hresult

/-- Where the last point has its evidence, the simulation is calculated from it. -/
lemma exists_calculated (hD : D.Lawful) (hdays : 1 ≤ window.days ∧ window.days ≤ 366)
    (hinitial : 0 < initial) (hprice : priceAt D prices 0 ≠ some 0)
    (hindex : strategy = .aaveUsdcSupply → indexAt D indexes 0 ≠ some 0)
    (h : ¬Unsupported D strategy prices indexes)
    (hlast : strategy = .aaveUsdcSupply → (indexAt D indexes (prices.length - 1)).isSome) :
    ∃ calculation, simulate D window strategy initial prices indexes =
        .ok (.calculated calculation) ∧
      Follows D strategy initial prices indexes window calculation := by
  obtain ⟨startPrice, finalPrice, hstart, hfinal, hfirst, hsimulate⟩ :=
    @simulate_supported D strategy initial prices indexes window h
  have hne : startPrice ≠ 0 := by
    rintro rfl
    exact hprice hstart
  have hfirstIndex : strategy = .aaveUsdcSupply →
      ∃ x, indexAt D indexes 0 = some x ∧ x ≠ 0 := by
    intro hstrategy
    obtain ⟨x, hx⟩ := Option.isSome_iff_exists.mp (hfirst hstrategy)
    refine ⟨x, hx, ?_⟩
    rintro rfl
    exact hindex hstrategy hx
  have hsome : (valueAt D strategy initial prices indexes (prices.length - 1)).isSome :=
    (valueAt_isSome hstart hfirst _).mpr ⟨by rw [hfinal]; rfl, hlast⟩
  obtain ⟨finalValue, hvalue⟩ := Option.isSome_iff_exists.mp hsome
  obtain ⟨calculation, hcalculate, hfollows⟩ := @exists_calculate D strategy initial prices indexes
    window startPrice hD hdays hinitial hstart hne hfirstIndex finalPrice finalValue hvalue
  refine ⟨calculation, ?_, hfollows⟩
  rw [hsimulate, hcalculate]
  rfl

lemma days_of_parse {start stop : String}
    (h : SimulationWindow.parse start stop = some window) :
    1 ≤ window.days ∧ window.days ≤ 366 := by
  obtain ⟨startDay, endDay, -, -, hlow, hhigh, rfl⟩ := parse_eq_some.mp h
  exact ⟨hlow, hhigh⟩

/-- **The outcome of a simulation matches its evidence**, with the last index that the Aave
strategy is given: where nothing else is missing it needs it. -/
theorem matchesEvidence_iff {start stop : String} (hD : D.Lawful)
    (hwindow : SimulationWindow.parse start stop = some window) (hinitial : 0 < initial)
    (hprice : priceAt D prices 0 ≠ some 0)
    (hindex : strategy = .aaveUsdcSupply → indexAt D indexes 0 ≠ some 0) :
    MatchesEvidence D strategy initial prices indexes window ↔
      (strategy = .aaveUsdcSupply → ¬Unsupported D strategy prices indexes →
        (indexAt D indexes (prices.length - 1)).isSome) := by
  constructor
  · intro hmatches hstrategy hsupported
    obtain ⟨startPrice, -, hstart, -, hfirst, -⟩ :=
      @simulate_supported D strategy initial prices indexes window hsupported
    obtain ⟨calculation, -, hfollows⟩ := hmatches.calculated hsupported
    have hsome := Option.isSome_iff_exists.mpr ⟨_, hfollows.finalValue⟩
    exact ((valueAt_isSome hstart hfirst _).mp hsome).2 hstrategy
  · intro hlast
    refine ⟨⟨?_, simulate_unsupported⟩, fun hsupported => ?_⟩
    · rintro ⟨reason, told, hresult⟩
      exact unsupported_of_simulate hresult
    · exact exists_calculated hD (days_of_parse hwindow) hinitial hprice hindex hsupported
        fun hstrategy => hlast hstrategy hsupported

end

/-! ### With and without the last index -/

def observedPrice (timestamp price : String) : PriceObservation :=
  ⟨timestamp, some price, "observed", none, none, none, none⟩

def observedIndex (timestamp index : String) : AaveIndexObservation :=
  ⟨timestamp, "1", "0x1", timestamp, index, "USDC", "0xa0b86991c6218b36c1d19d4a2e9eb0ce3606eb48"⟩

/-- The first day of 2025. -/
def newYear : SimulationWindow := ⟨"2025-01-01", "2025-01-01", 20089, 1⟩

def newYearPrices : List PriceObservation :=
  [observedPrice "2025-01-01T00:00:00Z" "1", observedPrice "2025-01-02T00:00:00Z" "0.99"]

def newYearIndexes (last : String) : Option (List AaveIndexObservation) :=
  some [observedIndex "2025-01-01T00:00:00Z" "1100000000000000000000000000",
    observedIndex "2025-01-02T00:00:00Z" last]

theorem matchesEvidence_newYear :
    MatchesEvidence plainDecimals .aaveUsdcSupply 1000 newYearPrices
      (newYearIndexes "1100100000000000000000000000") newYear :=
  (@matchesEvidence_iff plainDecimals .aaveUsdcSupply 1000 newYearPrices _ newYear "2025-01-01"
    "2025-01-01" plainDecimals_lawful (by decide +kernel) (by norm_num) (by decide +kernel)
    (fun _ => by decide +kernel)).mpr fun _ _ => by decide +kernel

/-- A last index that cannot be read, which no run gives, makes the simulation panic. -/
theorem not_matchesEvidence_newYear :
    SimulationWindow.parse "2025-01-01" "2025-01-01" = some newYear ∧
    ¬MatchesEvidence plainDecimals .aaveUsdcSupply 1000 newYearPrices (newYearIndexes "")
      newYear := by
  refine ⟨by decide +kernel, fun hmatches => ?_⟩
  have hsupported : ¬Unsupported plainDecimals .aaveUsdcSupply newYearPrices
      (newYearIndexes "") := by
    unfold Unsupported
    decide +kernel
  obtain ⟨calculation, hresult, -⟩ := hmatches.calculated hsupported
  have hpanics : simulate plainDecimals newYear .aaveUsdcSupply 1000 newYearPrices
      (newYearIndexes "") = .error .panic := by rfl
  rw [hpanics] at hresult
  cases hresult

end MotherApi.SimulationOutcomes
