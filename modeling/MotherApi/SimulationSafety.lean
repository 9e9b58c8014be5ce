import MotherApi.SimulationOutcomes

/-!
What the sources give cannot make a simulation panic, but for one thing.

Everything that a simulation divides by comes from outside: the first price and the first index,
the capital, the highest value so far and the number of days. The capital, the index and the days
are checked before they get to the simulation, and the highest value is never below the capital.
The first price is checked only to be a number.
-/

namespace MotherApi.SimulationSafety

open MotherApi.Lib.Fallible MotherApi.SimulationWindows MotherApi.SimulationEvidence
open MotherApi.Simulation MotherApi.SimulationOutcomes

/-- The evidence is what the sources have given for the window. -/
structure Supplied (window : SimulationWindow) (strategy : Strategy)
    (prices : List PriceObservation) (indexes : Option (List AaveIndexObservation)) : Prop where
  prices : ∃ client assetSlug, loadPrices client assetSlug window = .ok prices
  indexes : if strategy = .aaveUsdcSupply then
      ∃ bigwig protocol observations, loadAaveFactors bigwig protocol window = .ok observations ∧
        indexes = some observations
    else indexes = none

section

variable {D : Decimals} {window : SimulationWindow} {strategy : Strategy} {initial : ℚ}
  {prices : List PriceObservation} {indexes : Option (List AaveIndexObservation)}

lemma pos_of_parsePositiveDecimal {capital : String}
    (h : parsePositiveDecimal D capital = .ok initial) : 0 < initial := by
  unfold parsePositiveDecimal at h
  split_ifs at h
  split at h
  · cases h
  · split_ifs at h with hpos
    cases h
    exact hpos

lemma exists_indexAt (hD : D.Lawful) (h : Supplied window strategy prices indexes)
    (hstrategy : strategy = .aaveUsdcSupply) {i : ℕ} (hi : i < prices.length) :
    ∃ x, indexAt D indexes i = some x ∧ x ≠ 0 := by
  obtain ⟨client, assetSlug, hprices⟩ := h.prices
  have hindexes := h.indexes
  rw [if_pos hstrategy] at hindexes
  obtain ⟨bigwig, protocol, observations, hload, rfl⟩ := hindexes
  obtain ⟨htimestamps, hindex⟩ := loadAaveFactors_spec hload
  have hlength : observations.length = prices.length := by
    have hobservations := congrArg List.length htimestamps
    have hprices := congrArg List.length (loadPrices_timestamps hprices)
    rw [List.length_map] at hobservations hprices
    rw [hobservations, hprices]
  have hi : i < observations.length := by omega
  obtain ⟨n, hpos, hlt, htext⟩ := hindex observations[i] (List.getElem_mem hi)
  refine ⟨n, ?_, by exact_mod_cast hpos.ne'⟩
  rw [indexAt, Option.getD_some, List.getElem?_eq_getElem hi, Option.bind_some, usableIndex, htext,
    hD.natural n hlt]

/-- **A simulation of what the sources have given panics exactly if the first price is zero** and
the last price can be used. -/
theorem simulate_returns_iff {start stop capital : String} (hD : D.Lawful)
    (hwindow : SimulationWindow.parse start stop = some window)
    (hcapital : parsePositiveDecimal D capital = .ok initial)
    (hsupplied : Supplied window strategy prices indexes) :
    (∃ result, simulate D window strategy initial prices indexes = .ok result) ↔
      ¬(priceAt D prices 0 = some 0 ∧ (priceAt D prices (prices.length - 1)).isSome) := by
  constructor
  · rintro ⟨result, hresult⟩ ⟨hzero, hlast⟩
    have hlength := length_pos_of_priceAt hzero
    have hsupported : ¬Unsupported D strategy prices indexes := by
      rintro (hnone | hnone | ⟨hstrategy, hnone⟩)
      · rw [hzero] at hnone
        cases hnone
      · rw [hnone] at hlast
        cases hlast
      · obtain ⟨x, hx, -⟩ := exists_indexAt hD hsupplied hstrategy hlength
        rw [hx] at hnone
        cases hnone
    obtain ⟨startPrice, finalPrice, hstart, -, -, hsimulate⟩ :=
      @simulate_supported D strategy initial prices indexes window hsupported
    obtain rfl : startPrice = 0 := Option.some.inj (hstart.symm.trans hzero)
    rw [hsimulate, calculate_zero hzero] at hresult
    cases hresult
  · intro hnot
    by_cases hunsupported : Unsupported D strategy prices indexes
    · obtain ⟨reason, told, hresult⟩ := @simulate_unsupported D strategy initial prices indexes
        window hunsupported
      exact ⟨_, hresult⟩
    · obtain ⟨startPrice, finalPrice, hstart, hfinal, -, -⟩ :=
        @simulate_supported D strategy initial prices indexes window hunsupported
      have hlength := length_pos_of_priceAt hstart
      have hprice : priceAt D prices 0 ≠ some 0 := fun hzero =>
        hnot ⟨hzero, Option.isSome_iff_exists.mpr ⟨_, hfinal⟩⟩
      have hindex : strategy = .aaveUsdcSupply → indexAt D indexes 0 ≠ some 0 := by
        intro hstrategy hzero
        obtain ⟨x, hx, hne⟩ := exists_indexAt hD hsupplied hstrategy hlength
        exact hne (Option.some.inj (hx.symm.trans hzero))
      have hlast : strategy = .aaveUsdcSupply →
          (indexAt D indexes (prices.length - 1)).isSome := by
        intro hstrategy
        obtain ⟨x, hx, -⟩ := exists_indexAt hD hsupplied hstrategy
          (show prices.length - 1 < prices.length by omega)
        exact Option.isSome_iff_exists.mpr ⟨x, hx⟩
      obtain ⟨calculation, hresult, -⟩ := exists_calculated hD (days_of_parse hwindow)
        (pos_of_parsePositiveDecimal hcapital) hprice hindex hunsupported hlast
      exact ⟨_, hresult⟩

end

/-! ### A price of zero -/

/-- An indexer that has a price for the first and the last timestamp. -/
def twoPrices (first last : String) : PriceIndexer := fun _ quoteCurrency start stop =>
  .ok ⟨quoteCurrency, start, stop, "1d",
    [⟨start, some first, "observed", none, none, none, none⟩,
      ⟨stop, some last, "observed", none, none, none, none⟩]⟩

def twoObservations (first last : String) : List PriceObservation :=
  [observedPrice "2025-01-01T00:00:00Z" first, observedPrice "2025-01-02T00:00:00Z" last]

lemma supplied_twoPrices (first last : String) :
    Supplied newYear .btcHold (twoObservations first last) none := by
  have hstart : newYear.startTimestamp = "2025-01-01T00:00:00Z" := by decide +kernel
  have hstop : newYear.endTimestamp = "2025-01-02T00:00:00Z" := by decide +kernel
  have htimestamps : newYear.timestamps = ["2025-01-01T00:00:00Z", "2025-01-02T00:00:00Z"] := by
    decide +kernel
  have hcurrency : Strings.toAsciiUppercase quoteCurrency = quoteCurrency := by decide +kernel
  refine ⟨⟨some (twoPrices first last), "bitcoin", ?_⟩, rfl⟩
  simp [loadPrices, twoPrices, hstart, hstop, htimestamps, hcurrency, byTimestamp, bind_ok,
    Except.mapError, PriceObservation.fromPoint, twoObservations, observedPrice]

theorem simulate_returns_newYear :
    ∃ result, simulate plainDecimals newYear .btcHold 1000 (twoObservations "100" "110") none =
      .ok result :=
  (@simulate_returns_iff plainDecimals newYear .btcHold 1000 (twoObservations "100" "110") none
    "2025-01-01" "2025-01-01" "1000" plainDecimals_lawful (by decide +kernel) (by decide +kernel)
    (supplied_twoPrices "100" "110")).mpr (by decide +kernel)

theorem simulate_panics_newYear :
    SimulationWindow.parse "2025-01-01" "2025-01-01" = some newYear ∧
      parsePositiveDecimal plainDecimals "1000" = .ok 1000 ∧
      Supplied newYear .btcHold (twoObservations "0" "110") none ∧
      ¬∃ result, simulate plainDecimals newYear .btcHold 1000 (twoObservations "0" "110") none =
        .ok result := by
  refine ⟨by decide +kernel, by decide +kernel, supplied_twoPrices "0" "110", ?_⟩
  have hpanics : simulate plainDecimals newYear .btcHold 1000 (twoObservations "0" "110") none =
      .error .panic := by rfl
  rintro ⟨result, hresult⟩
  rw [hpanics] at hresult
  cases hresult

end MotherApi.SimulationSafety
