import MotherApi.StrictPrices
import MotherApi.Portfolio

/-!
What a price in dollars is, on the way from the price indexer to the portfolio.

The validator of a batch compares the currency of a price without its surrounding whitespace
and without regard to case, and passes it on as it is written. The portfolio compares it
without regard to case.
-/

namespace MotherApi.UsdQuotes

open MotherApi.Lib.Fallible MotherApi.Strings MotherApi.BalanceCommand MotherApi.BalanceTargets
open MotherApi.BalanceService MotherApi.Portfolio MotherApi.Decimal MotherApi.StrictPrices

/-! ### Spellings -/

/-- **The two spellings of dollars.** Of the currencies the validator takes for dollars, the
portfolio takes those without surrounding whitespace. -/
lemma eqIgnoreAsciiCase_usd_iff {currency : String}
    (h : toAsciiUppercase (trim currency) = "USD") :
    eqIgnoreAsciiCase currency PORTFOLIO_QUOTE_CURRENCY = true ↔ trim currency = currency := by
  have hlower : toAsciiLowercase (trim currency) = "usd" := by
    rw [← toAsciiLowercase_toAsciiUppercase, h]
    decide +kernel
  have husd : toAsciiLowercase PORTFOLIO_QUOTE_CURRENCY = "usd" := by decide +kernel
  rw [eqIgnoreAsciiCase, beq_iff_eq, husd]
  constructor
  · intro heq
    refine trim_of_no_whitespace fun c hc => ?_
    by_contra hspace
    rw [Bool.not_eq_false] at hspace
    have hmem : c.toLower ∈ (toAsciiLowercase currency).toList := by
      simp only [toAsciiLowercase, String.toList_ofList]
      exact List.mem_map_of_mem hc
    rw [heq, toLower_of_whitespace hspace] at hmem
    have hletters : ("usd" : String).toList.any isWhitespace = false := by decide +kernel
    rw [List.any_eq_true.mpr ⟨c, hmem, hspace⟩] at hletters
    cases hletters
  · intro heq
    rw [← heq, hlower]

/-! ### Counting -/

/-- The text is a decimal number, so amounts can be multiplied by it. -/
def IsNumber (price : String) : Prop := ∃ number, parseUnsignedDecimal price.toList = .ok number

/-- The contribution is resolved and valued with a quote of the table. -/
def IsQuoted (quotes : String → Option PriceQuoteResolution) (contribution : PortfolioContribution)
    (value : String) : Prop :=
  ∃ slug quote target rawAmount decimals amount currency unitPrice priceAsOf,
    quotes slug = some quote ∧
    enrichQuote quote rawAmount decimals = .ok (.available currency unitPrice value priceAsOf) ∧
    contribution.outcome =
      .balance (.resolved target rawAmount amount (.available currency unitPrice value priceAsOf))

/-- The portfolio counts every value of the quotes, and an asset with an amount and such a value
everywhere is complete. -/
structure AgreesOnUsd (quotes : String → Option PriceQuoteResolution) : Prop where
  counted : ∀ contribution value, IsQuoted quotes contribution value →
    availableUsdQuoteValue contribution = some value
  complete : ∀ assetSlug contributions observation,
    (∀ contribution ∈ contributions, (∃ value, IsQuoted quotes contribution value) ∧
      (resolvedAmount contribution).isSome = true) →
    aggregateAsset (assetSlug, contributions) = .ok observation →
    observation.valuationStatus = .complete

lemma multiplyAmountByPrice_isNumber {rawAmount unitPrice value : String} {decimals : ℕ}
    (h : multiplyAmountByPrice rawAmount decimals unitPrice = .ok value) : IsNumber unitPrice := by
  unfold multiplyAmountByPrice at h
  split at h
  · obtain ⟨price, hprice, -⟩ := bind_eq_ok.mp h
    exact ⟨price, lift_eq_ok.mp hprice⟩
  · cases h

lemma exists_multiplyAmountByPrice {unitPrice : String} (h : IsNumber unitPrice) :
    ∃ value, multiplyAmountByPrice "0" 0 unitPrice = .ok value := by
  obtain ⟨price, hprice⟩ := h
  have hzero : isUnsignedInteger ("0" : String).toList = true := by decide
  rcases multiplyAmountByPrice_spec "0" 0 unitPrice with ⟨error, h⟩ | ⟨value, _, _, h, -⟩
  · obtain ⟨product, hproduct, -⟩ := multiplyIntegerDigits_ok
      (isUnsignedInteger_iff.mp hzero).2 (parseUnsignedDecimal_spec hprice).1
    unfold multiplyAmountByPrice at h
    rw [if_pos hzero, hprice] at h
    simp only [lift, bind, Except.bind, hproduct] at h
    cases h
  · exact ⟨value, h⟩

lemma enrichQuote_available {quote : PriceQuoteResolution} {rawAmount : String} {decimals : ℕ}
    {currency unitPrice value priceAsOf : String}
    (h : enrichQuote quote rawAmount decimals =
      .ok (.available currency unitPrice value priceAsOf)) :
    quote = .available unitPrice currency priceAsOf ∧
      multiplyAmountByPrice rawAmount decimals unitPrice = .ok value := by
  unfold enrichQuote at h
  split at h
  · split at h
    · rename_i hvalue
      simp only [pure, Except.pure, Except.ok.injEq, BalanceQuoteOutcome.available.injEq] at h
      obtain ⟨rfl, rfl, rfl, rfl⟩ := h
      exact ⟨rfl, hvalue⟩
    all_goals cases h
  all_goals cases h

variable {post : List String → String → Strict LatestPriceBatchResponse} {slugs : List String}
  {quoteCurrency : String} {response : LatestPriceBatchResponse}
  {quotes : String → Option PriceQuoteResolution}

lemma latestQuotes_ok (hpost : post (normalizeSlugs slugs) "USD" = .ok response)
    (hcurrency : normalizeQuoteCurrency quoteCurrency = "USD")
    (hquotes : latestQuotes post slugs quoteCurrency = .ok quotes) : ∃ strict,
      validateStrictPriceBatch response (normalizeSlugs slugs) "USD" = .ok strict ∧
      ∀ slug, quotes slug = (strict slug).map priceQuoteResolution := by
  unfold StrictPrices.latestQuotes at hquotes
  split at hquotes
  swap
  · cases hquotes
  rename_i strict hstrict
  simp only [Except.ok.injEq] at hquotes
  subst hquotes
  unfold latestQuotesStrict at hstrict
  simp only at hstrict
  split at hstrict
  · cases hstrict
  rw [hcurrency] at hstrict
  obtain ⟨response', hresponse, hstrict⟩ := bind_eq_ok.mp hstrict
  obtain rfl := Except.ok.inj (hpost.symm.trans hresponse)
  exact ⟨strict, hstrict, fun _ => rfl⟩

lemma map_priceQuoteResolution_eq {quote : Option StrictLatestQuote}
    {unitPrice currency priceAsOf : String} :
    quote.map priceQuoteResolution = some (.available unitPrice currency priceAsOf) ↔
      quote = some (.available unitPrice currency priceAsOf) := by
  rcases quote with _ | _ | _ | _ <;> simp [priceQuoteResolution]

/-- What is quoted has a price of the response, in a currency the validator takes for dollars. -/
lemma exists_price (hpost : post (normalizeSlugs slugs) "USD" = .ok response)
    (hcurrency : normalizeQuoteCurrency quoteCurrency = "USD")
    (hquotes : latestQuotes post slugs quoteCurrency = .ok quotes)
    {contribution : PortfolioContribution} {value : String}
    (h : IsQuoted quotes contribution value) : ∃ result ∈ response.results, ∃ price,
      result.price = some price ∧ IsNumber price.price ∧
      toAsciiUppercase (trim price.quoteCurrency) = "USD" ∧
      (availableUsdQuoteValue contribution = some value ↔
        eqIgnoreAsciiCase price.quoteCurrency PORTFOLIO_QUOTE_CURRENCY = true) := by
  obtain ⟨slug, quote, target, rawAmount, decimals, amount, currency, unitPrice, priceAsOf, hquote,
    henrich, houtcome⟩ := h
  obtain ⟨rfl, hvalue⟩ := enrichQuote_available henrich
  obtain ⟨strict, hstrict, heq⟩ := latestQuotes_ok hpost hcurrency hquotes
  rw [heq, map_priceQuoteResolution_eq] at hquote
  obtain ⟨result, hresult, -, hcarries⟩ := (quotes_iff (nodup_eraseDups _) hstrict).mp hquote
  cases hcarries with
  | found _ hprice =>
    refine ⟨result, hresult, _, hprice.found, multiplyAmountByPrice_isNumber hvalue,
      hprice.currency, ?_⟩
    simp [availableUsdQuoteValue, houtcome]

/-- An amount of an asset, valued at a price. -/
def valuedContribution (price : BatchLatestPriceResponse) (rawAmount value : String) :
    PortfolioContribution where
  memberId := "member"
  networkSlug := "eth-mainnet"
  address := "0x0000000000000000000000000000000000000000"
  labels := []
  evidence := none
  outcome := .balance (.resolved
    { selector := .assetSlug price.slug, networkSlug := "eth-mainnet", chainId := 1
      assetSlug := some price.slug, symbol := none, name := none, decimals := some 0
      pricingAssetSlug := some price.slug, kind := .native }
    rawAmount (some rawAmount)
    (.available price.quoteCurrency price.price value price.recordedAt))

/-- A price of the response that is a number values some contribution. -/
lemma exists_isQuoted (hpost : post (normalizeSlugs slugs) "USD" = .ok response)
    (hcurrency : normalizeQuoteCurrency quoteCurrency = "USD")
    (hquotes : latestQuotes post slugs quoteCurrency = .ok quotes)
    {result : LatestPriceBatchResult} (hresult : result ∈ response.results)
    {price : BatchLatestPriceResponse} (hprice : result.price = some price)
    (hnumber : IsNumber price.price) : ∃ contribution value, IsQuoted quotes contribution value ∧
      toAsciiUppercase (trim price.quoteCurrency) = "USD" ∧
      (availableUsdQuoteValue contribution = some value ↔
        eqIgnoreAsciiCase price.quoteCurrency PORTFOLIO_QUOTE_CURRENCY = true) := by
  obtain ⟨strict, hstrict, heq⟩ := latestQuotes_ok hpost hcurrency hquotes
  have hanswers := ((validateStrictPriceBatch_eq_ok (nodup_eraseDups _)).mp hstrict).1
  obtain ⟨quote, hcarries⟩ := hanswers.consistent result hresult
  have hquote := (quotes_iff (nodup_eraseDups _) hstrict).mpr ⟨result, hresult, rfl, hcarries⟩
  -- only a result that was found has a price
  cases hcarries with
  | unavailable _ hnone => rw [hprice] at hnone; cases hnone
  | unknown _ hnone => rw [hprice] at hnone; cases hnone
  | error _ hnone => rw [hprice] at hnone; cases hnone
  | found _ hfound =>
    obtain rfl := Option.some.inj (hprice.symm.trans hfound.found)
    obtain ⟨value, hvalue⟩ := exists_multiplyAmountByPrice hnumber
    refine ⟨valuedContribution price "0" value, value, ?_, hfound.currency, ?_⟩
    · refine ⟨normalizeSlug result.normalizedSlug,
        .available price.price price.quoteCurrency price.recordedAt, _, "0", 0, _, _, _, _,
        ?_, ?_, rfl⟩
      · rw [heq, map_priceQuoteResolution_eq]
        exact hquote
      · simp only [enrichQuote, hvalue, pure, Except.pure]
    · simp [availableUsdQuoteValue, valuedContribution]

lemma aggregateAsset_complete {assetSlug : String} {contributions : List PortfolioContribution}
    {observation : AggregatedAssetObservation}
    (h : aggregateAsset (assetSlug, contributions) = .ok observation)
    (hamounts : ∀ c ∈ contributions, (resolvedAmount c).isSome = true)
    (hvalues : ∀ c ∈ contributions, (availableUsdQuoteValue c).isSome = true) :
    observation.valuationStatus = .complete := by
  obtain ⟨total, htotal, h⟩ := bind_eq_ok.mp h
  obtain ⟨known, -, h⟩ := bind_eq_ok.mp h
  simp only [pure, Except.pure, Except.ok.injEq] at h
  subst h
  have hlength := List.filterMap_length_eq_length.mpr hvalues
  have htotal : total.isSome = true := by
    unfold sumAmounts at htotal
    simp only at htotal
    rw [if_pos (List.filterMap_length_eq_length.mpr hamounts)] at htotal
    obtain ⟨sum, -, rfl⟩ := map_eq_ok.mp htotal
    rfl
  exact if_pos ⟨htotal, hlength⟩

/-- **Dollars on both sides.** The portfolio counts every quote that the validator accepts as a
price in dollars exactly if no price that is a number has its currency written with whitespace
around it. -/
theorem agreesOnUsd_iff (hpost : post (normalizeSlugs slugs) "USD" = .ok response)
    (hcurrency : normalizeQuoteCurrency quoteCurrency = "USD")
    (hquotes : latestQuotes post slugs quoteCurrency = .ok quotes) :
    AgreesOnUsd quotes ↔ ∀ result ∈ response.results, ∀ price, result.price = some price →
      IsNumber price.price → trim price.quoteCurrency = price.quoteCurrency := by
  constructor
  · intro h result hresult price hprice hnumber
    obtain ⟨contribution, value, hquoted, husd, hcounted⟩ :=
      exists_isQuoted hpost hcurrency hquotes hresult hprice hnumber
    rw [← eqIgnoreAsciiCase_usd_iff husd, ← hcounted]
    exact h.counted contribution value hquoted
  · intro h
    have hcounted (contribution : PortfolioContribution) (value : String)
        (hquoted : IsQuoted quotes contribution value) :
        availableUsdQuoteValue contribution = some value := by
      obtain ⟨result, hresult, price, hprice, hnumber, husd, hiff⟩ :=
        exists_price hpost hcurrency hquotes hquoted
      rw [hiff, eqIgnoreAsciiCase_usd_iff husd]
      exact h result hresult price hprice hnumber
    refine ⟨hcounted, fun assetSlug contributions observation hall haggregate => ?_⟩
    refine aggregateAsset_complete haggregate (fun c hc => (hall c hc).2) fun c hc => ?_
    obtain ⟨value, hquoted⟩ := (hall c hc).1
    rw [hcounted c value hquoted]
    rfl

/-- One price of one dollar, with the currency as given. -/
def dollarPrice (currency : String) : BatchLatestPriceResponse where
  slug := "usdc"
  quoteCurrency := currency
  price := "1"
  recordedAt := "2026-08-01T00:00:00Z"
  freshnessStatus := .fresh

def dollarBatch (currency : String) : LatestPriceBatchResponse where
  quoteCurrency := "USD"
  requestedCount := 1
  uniqueCount := 1
  results := [
    { requestedSlug := "usdc", normalizedSlug := "usdc", slug := some "usdc", status := .found
      freshnessStatus := some .fresh, price := some (dollarPrice currency), hasError := false }]

/-- The table the reader makes of a batch that is accepted. -/
def dollarQuotes (currency : String) : Option (String → Option PriceQuoteResolution) :=
  (StrictPrices.latestQuotes (fun _ _ => .ok (dollarBatch currency)) ["usdc"] "USD").toOption

lemma dollarQuotes_eq_some {currency : String} {quotes : String → Option PriceQuoteResolution}
    (h : dollarQuotes currency = some quotes) :
    StrictPrices.latestQuotes (fun _ _ => .ok (dollarBatch currency)) ["usdc"] "USD" =
      .ok quotes := by
  unfold dollarQuotes at h
  cases hquotes : StrictPrices.latestQuotes (fun _ _ => .ok (dollarBatch currency)) ["usdc"] "USD"
  · rw [hquotes] at h
    cases h
  · rw [hquotes] at h
    simpa [Except.toOption] using h

/-- A dollar in small letters is counted. -/
theorem agreesOnUsd_iff_lowercase :
    ∃ quotes, dollarQuotes "usd" = some quotes ∧ AgreesOnUsd quotes := by
  obtain ⟨quotes, hquotes⟩ := Option.isSome_iff_exists.mp
    (by decide +kernel : (dollarQuotes "usd").isSome = true)
  have hpost : (fun _ _ => .ok (dollarBatch "usd") : List String → String →
      Strict LatestPriceBatchResponse) (normalizeSlugs ["usdc"]) "USD" =
        .ok (dollarBatch "usd") := rfl
  have hcurrency : normalizeQuoteCurrency "USD" = "USD" := by decide +kernel
  refine ⟨quotes, hquotes,
    (agreesOnUsd_iff hpost hcurrency (dollarQuotes_eq_some hquotes)).mpr ?_⟩
  intro result hresult price hprice _
  obtain rfl := List.mem_singleton.mp hresult
  obtain rfl := Option.some.inj hprice
  decide +kernel

/-- **A dollar that is not counted**: the price is accepted with a blank before its currency,
and the value of what it prices is left out. -/
theorem blank_before_usd_not_counted :
    ∃ quotes, dollarQuotes " USD" = some quotes ∧
      IsQuoted quotes (valuedContribution (dollarPrice " USD") "5" "5") "5" ∧
      availableUsdQuoteValue (valuedContribution (dollarPrice " USD") "5" "5") = none ∧
      (aggregateAsset ("usdc", [valuedContribution (dollarPrice " USD") "5" "5"])).map
          (fun asset => (asset.totalAmount, asset.knownValue, asset.valuationStatus)) =
        .ok (some "5", "0", .partially) := by
  obtain ⟨quotes, hquotes⟩ := Option.isSome_iff_exists.mp
    (by decide +kernel : (dollarQuotes " USD").isSome = true)
  have hquote : ((dollarQuotes " USD").bind fun quotes => quotes "usdc") =
      some (.available "1" " USD" "2026-08-01T00:00:00Z") := by
    decide +kernel
  rw [hquotes] at hquote
  refine ⟨quotes, hquotes, ⟨"usdc", _, _, "5", 0, _, _, _, _, hquote, ?_, rfl⟩, ?_, ?_⟩
  all_goals decide +kernel

end MotherApi.UsdQuotes
