import MotherApi.Lib.Fallible
import MotherApi.Lib.Tables
import MotherApi.BalanceService
import Mathlib.Data.List.Nodup

/-!
The prices of a batch of assets, taken only if the batch answers what was asked.

One pass over the results checks each of them and enters its quote under its slug. The results
come in any order, so the pass is compared with a relation that does not have one: which quote
a result carries, if it is consistent at all.
-/

namespace MotherApi.StrictPrices

open MotherApi.Lib.Fallible MotherApi.Lib.Tables MotherApi.Strings MotherApi.BalanceService

inductive FreshnessStatus
  | fresh | stale | degraded | unavailable | unknown
  deriving DecidableEq

inductive PriceBatchResultStatus
  | found | unavailable | unknown | error | other
  deriving DecidableEq

structure BatchLatestPriceResponse where
  slug : String
  quoteCurrency : String
  price : String
  recordedAt : String
  freshnessStatus : FreshnessStatus
  deriving DecidableEq

/-- All that is asked of the JSON under `error` is whether there is any. -/
structure LatestPriceBatchResult where
  requestedSlug : String
  normalizedSlug : String
  slug : Option String
  status : PriceBatchResultStatus
  freshnessStatus : Option FreshnessStatus
  price : Option BatchLatestPriceResponse
  hasError : Bool
  deriving DecidableEq

structure LatestPriceBatchResponse where
  quoteCurrency : String
  requestedCount : ℕ
  uniqueCount : ℕ
  results : List LatestPriceBatchResult
  deriving DecidableEq

inductive StrictLatestQuote
  | available (unitPrice quoteCurrency recordedAt : String)
  | unavailable
  | unsupported
  deriving DecidableEq

inductive StrictPriceBatchError
  | invalidRequest
  | unauthorized
  | providerUnavailable (status : Option ℕ) (code : Option String)
  | timeout
  | transport
  | malformedResponse
  deriving DecidableEq

abbrev Strict := Except StrictPriceBatchError

def PRICE_BATCH_MAX_SLUGS : ℕ := 50
def DEFAULT_QUOTE_CURRENCY : String := "USD"

/-- How a slug is spelled before it is compared. -/
def normalizeSlug (slug : String) : String := toAsciiLowercase (trim slug)

def normalizeSlugs (slugs : List String) : List String :=
  ((slugs.map normalizeSlug).filter (· != "")).eraseDups

def normalizeQuoteCurrency (quoteCurrency : String) : String :=
  let normalized := toAsciiUppercase (trim quoteCurrency)
  if normalized = "" then DEFAULT_QUOTE_CURRENCY else normalized

/-! ### The validator -/

def ensure (passes : Bool) : Strict Unit :=
  if passes then .ok () else .error .malformedResponse

def present {α : Type} : Option α → Strict α
  | some a => .ok a
  | none => .error .malformedResponse

/-- The quote of one result of a batch. -/
def strictQuote (quoteCurrency normalizedSlug : String) (result : LatestPriceBatchResult) :
    Strict StrictLatestQuote :=
  match result.status with
  | .found => do
    let price ← present result.price
    let outerFreshness ← present result.freshnessStatus
    ensure (!(result.hasError
      || result.slug.any (fun slug => normalizeSlug slug != normalizedSlug)
      || normalizeSlug price.slug != normalizedSlug
      || toAsciiUppercase (trim price.quoteCurrency) != quoteCurrency
      || trim price.price == ""
      || trim price.recordedAt == ""
      || outerFreshness != price.freshnessStatus
      || !decide (price.freshnessStatus ∈ [.fresh, .stale, .degraded])))
    return .available price.price price.quoteCurrency price.recordedAt
  | .unavailable => do
    ensure (!(result.price.isSome || result.hasError
      || !decide (result.freshnessStatus ∈ [none, some .unavailable])))
    return .unavailable
  | .unknown => do
    ensure (!result.price.isSome)
    return .unsupported
  | .error => do
    ensure (!result.price.isSome)
    return .unavailable
  | .other => .error .malformedResponse

/-- The quotes entered so far, each under its slug. A slug is entered once. -/
abbrev Entries := List (String × StrictLatestQuote)

def enterQuote (requestedSlugs : List String) (quoteCurrency : String) (quotes : Entries)
    (result : LatestPriceBatchResult) : Strict Entries := do
  let requestedSlug := normalizeSlug result.requestedSlug
  let normalizedSlug := normalizeSlug result.normalizedSlug
  ensure (!(requestedSlug != normalizedSlug || !decide (normalizedSlug ∈ requestedSlugs)
    || decide (normalizedSlug ∈ quotes.map Prod.fst)))
  let quote ← strictQuote quoteCurrency normalizedSlug result
  return quotes ++ [(normalizedSlug, quote)]

def validateStrictPriceBatch (response : LatestPriceBatchResponse) (requestedSlugs : List String)
    (quoteCurrency : String) : Strict (String → Option StrictLatestQuote) := do
  ensure (!(toAsciiUppercase (trim response.quoteCurrency) != quoteCurrency
    || response.requestedCount != requestedSlugs.length
    || response.uniqueCount != requestedSlugs.length
    || response.results.length != requestedSlugs.length))
  let quotes ← response.results.foldlM (enterQuote requestedSlugs quoteCurrency) []
  ensure (quotes.length == requestedSlugs.length)
  return ofPairs quotes

/-- The client asks with the normalized request. What the price indexer does with it is a
failure or a response. -/
def latestQuotesStrict (post : List String → String → Strict LatestPriceBatchResponse)
    (slugs : List String) (quoteCurrency : String) : Strict (String → Option StrictLatestQuote) :=
  let normalizedSlugs := normalizeSlugs slugs
  if normalizedSlugs.length ≠ slugs.length ∨ normalizedSlugs = []
      ∨ normalizedSlugs.length > PRICE_BATCH_MAX_SLUGS then .error .invalidRequest
  else do
    let quoteCurrency := normalizeQuoteCurrency quoteCurrency
    let response ← post normalizedSlugs quoteCurrency
    validateStrictPriceBatch response normalizedSlugs quoteCurrency

def priceQuoteResolution : StrictLatestQuote → PriceQuoteResolution
  | .available unitPrice quoteCurrency recordedAt => .available unitPrice quoteCurrency recordedAt
  | .unavailable => .unavailable
  | .unsupported => .unsupported

def priceQuoteError : StrictPriceBatchError → PriceQuoteError
  | .unauthorized | .providerUnavailable _ _ | .timeout | .transport => .providerUnavailable
  | .invalidRequest | .malformedResponse => .internalError

/-- `PriceIndexerBalanceQuoteReader::latest_quotes`. -/
def latestQuotes (post : List String → String → Strict LatestPriceBatchResponse)
    (pricingAssetSlugs : List String) (quoteCurrency : String) : Quotes :=
  match latestQuotesStrict post pricingAssetSlugs quoteCurrency with
  | .ok quotes => .ok fun slug => (quotes slug).map priceQuoteResolution
  | .error error => .error (priceQuoteError error)

/-! ### What a result carries -/

/-- The price of a result that was found: for the slug and the currency, with a price and a
time, and as fresh inside as outside. -/
structure IsPriceFor (quoteCurrency slug : String) (result : LatestPriceBatchResult)
    (price : BatchLatestPriceResponse) : Prop where
  found : result.price = some price
  noError : result.hasError = false
  outerSlug : ∀ outer, result.slug = some outer → normalizeSlug outer = slug
  slug : normalizeSlug price.slug = slug
  currency : toAsciiUppercase (trim price.quoteCurrency) = quoteCurrency
  priced : trim price.price ≠ ""
  timed : trim price.recordedAt ≠ ""
  freshness : result.freshnessStatus = some price.freshnessStatus
  usable : price.freshnessStatus ∈ [FreshnessStatus.fresh, .stale, .degraded]

/-- The result is consistent as an answer for the slug, and this is the quote it carries. -/
inductive Carries (quoteCurrency slug : String) (result : LatestPriceBatchResult) :
    StrictLatestQuote → Prop
  | found {price : BatchLatestPriceResponse} (status : result.status = .found)
    (found : IsPriceFor quoteCurrency slug result price) :
    Carries quoteCurrency slug result (.available price.price price.quoteCurrency price.recordedAt)
  | unavailable (status : result.status = .unavailable) (price : result.price = none)
    (noError : result.hasError = false)
    (freshness : result.freshnessStatus = none ∨ result.freshnessStatus = some .unavailable) :
    Carries quoteCurrency slug result .unavailable
  | unknown (status : result.status = .unknown) (price : result.price = none) :
    Carries quoteCurrency slug result .unsupported
  | error (status : result.status = .error) (price : result.price = none) :
    Carries quoteCurrency slug result .unavailable

/-- **What a batch has to be**: for the currency, with both counts right, and with exactly one
result for every requested slug, in any order, each of them consistent. -/
structure AnswersRequest (response : LatestPriceBatchResponse) (requestedSlugs : List String)
    (quoteCurrency : String) : Prop where
  currency : toAsciiUppercase (trim response.quoteCurrency) = quoteCurrency
  requestedCount : response.requestedCount = requestedSlugs.length
  uniqueCount : response.uniqueCount = requestedSlugs.length
  slugs :
    (response.results.map fun result => normalizeSlug result.normalizedSlug).Perm requestedSlugs
  agrees : ∀ result ∈ response.results,
    normalizeSlug result.requestedSlug = normalizeSlug result.normalizedSlug
  consistent : ∀ result ∈ response.results, ∃ quote,
    Carries quoteCurrency (normalizeSlug result.normalizedSlug) result quote

@[simp] lemma ensure_eq_ok {passes : Bool} {u : Unit} : ensure passes = .ok u ↔ passes = true := by
  cases passes <;> simp [ensure]

@[simp] lemma present_eq_ok {α : Type} {x : Option α} {a : α} : present x = .ok a ↔ x = some a := by
  cases x <;> simp [present]

lemma ensure_bind_eq_ok {α : Type} {passes : Bool} {x : Strict α} {a : α} :
    (do ensure passes; x) = .ok a ↔ passes = true ∧ x = .ok a := by
  cases passes <;> simp [ensure, bind, Except.bind]

variable {quoteCurrency : String} {requestedSlugs : List String}

lemma strictQuote_found {slug : String} {result : LatestPriceBatchResult}
    {quote : StrictLatestQuote} (hstatus : result.status = .found) :
    strictQuote quoteCurrency slug result = .ok quote ↔
      ∃ price, IsPriceFor quoteCurrency slug result price ∧
        quote = .available price.price price.quoteCurrency price.recordedAt := by
  unfold strictQuote
  simp only [hstatus, bind_eq_ok (α := BatchLatestPriceResponse),
    bind_eq_ok (α := FreshnessStatus), ensure_bind_eq_ok, present_eq_ok]
  constructor
  · rintro ⟨price, hprice, outer, houter, hchecks, hquote⟩
    simp only [Bool.not_eq_true', Bool.or_eq_false_iff, bne_eq_false_iff_eq, Option.any_eq_false,
      beq_eq_false_iff_ne, decide_eq_true_eq, Bool.not_eq_false'] at hchecks
    obtain ⟨⟨⟨⟨⟨⟨⟨herror, hslug⟩, hprice'⟩, hcurrency⟩, hpriced⟩, htimed⟩, hfresh⟩, husable⟩ :=
      hchecks
    simp only [pure, Except.pure, Except.ok.injEq] at hquote
    exact ⟨price, ⟨hprice, herror, fun outer ho => by simpa using hslug outer ho, hprice',
      hcurrency, hpriced, htimed, hfresh ▸ houter, husable⟩, hquote.symm⟩
  · rintro ⟨price, h, rfl⟩
    refine ⟨price, h.found, price.freshnessStatus, h.freshness, ?_, rfl⟩
    simp only [Bool.not_eq_true', Bool.or_eq_false_iff, bne_eq_false_iff_eq, Option.any_eq_false,
      beq_eq_false_iff_ne, decide_eq_true_eq, Bool.not_eq_false']
    exact ⟨⟨⟨⟨⟨⟨⟨h.noError, h.outerSlug⟩, h.slug⟩, h.currency⟩, h.priced⟩, h.timed⟩, trivial⟩,
      h.usable⟩

lemma strictQuote_eq_ok {slug : String} {result : LatestPriceBatchResult}
    {quote : StrictLatestQuote} : strictQuote quoteCurrency slug result = .ok quote ↔
      Carries quoteCurrency slug result quote := by
  constructor
  · intro h
    cases hstatus : result.status with
    | found =>
      obtain ⟨price, hprice, rfl⟩ := (strictQuote_found hstatus).mp h
      exact .found hstatus hprice
    | unavailable =>
      simp only [strictQuote, hstatus, ensure_bind_eq_ok, pure, Except.pure, Except.ok.injEq] at h
      obtain ⟨hchecks, rfl⟩ := h
      simp only [Bool.not_eq_true', Bool.or_eq_false_iff, Option.isSome_eq_false_iff,
        Option.isNone_iff_eq_none, Bool.not_eq_false', decide_eq_true_eq, List.mem_cons,
        List.not_mem_nil, or_false] at hchecks
      exact .unavailable hstatus hchecks.1.1 hchecks.1.2 hchecks.2
    | unknown =>
      simp only [strictQuote, hstatus, ensure_bind_eq_ok, pure, Except.pure, Except.ok.injEq] at h
      obtain ⟨hprice, rfl⟩ := h
      exact .unknown hstatus (by simpa using hprice)
    | error =>
      simp only [strictQuote, hstatus, ensure_bind_eq_ok, pure, Except.pure, Except.ok.injEq] at h
      obtain ⟨hprice, rfl⟩ := h
      exact .error hstatus (by simpa using hprice)
    | other => simp [strictQuote, hstatus] at h
  · intro h
    cases h with
    | found hstatus hprice => exact (strictQuote_found hstatus).mpr ⟨_, hprice, rfl⟩
    | unavailable hstatus hprice herror hfresh =>
      simp only [strictQuote, hstatus, ensure_bind_eq_ok]
      rcases hfresh with hfresh | hfresh <;> simp [hprice, herror, hfresh, pure, Except.pure]
    | unknown hstatus hprice =>
      simp only [strictQuote, hstatus, ensure_bind_eq_ok]
      simp [hprice, pure, Except.pure]
    | error hstatus hprice =>
      simp only [strictQuote, hstatus, ensure_bind_eq_ok]
      simp [hprice, pure, Except.pure]

/-! ### The pass -/

/-- What one result enters. -/
structure Enters (requestedSlugs : List String) (quoteCurrency : String)
    (result : LatestPriceBatchResult) (entry : String × StrictLatestQuote) : Prop where
  slug : entry.1 = normalizeSlug result.normalizedSlug
  agrees : normalizeSlug result.requestedSlug = normalizeSlug result.normalizedSlug
  requested : normalizeSlug result.normalizedSlug ∈ requestedSlugs
  carries : Carries quoteCurrency (normalizeSlug result.normalizedSlug) result entry.2

lemma enterQuote_eq_ok {quotes quotes' : Entries} {result : LatestPriceBatchResult} :
    enterQuote requestedSlugs quoteCurrency quotes result = .ok quotes' ↔
      ∃ entry, Enters requestedSlugs quoteCurrency result entry ∧
        entry.1 ∉ quotes.map Prod.fst ∧ quotes' = quotes ++ [entry] := by
  unfold enterQuote
  simp only [ensure_bind_eq_ok, bind_eq_ok (α := StrictLatestQuote), strictQuote_eq_ok,
    Bool.not_eq_true', Bool.or_eq_false_iff, bne_eq_false_iff_eq, Bool.not_eq_false',
    decide_eq_true_eq, decide_eq_false_iff_not, pure, Except.pure, Except.ok.injEq]
  constructor
  · rintro ⟨⟨⟨hagrees, hrequested⟩, hnew⟩, quote, hquote, rfl⟩
    exact ⟨(normalizeSlug result.normalizedSlug, quote), ⟨rfl, hagrees, hrequested, hquote⟩, hnew,
      rfl⟩
  · rintro ⟨⟨slug, quote⟩, hentry, hnew, rfl⟩
    have hslug : slug = normalizeSlug result.normalizedSlug := hentry.slug
    subst hslug
    exact ⟨⟨⟨hentry.agrees, hentry.requested⟩, hnew⟩, quote, hentry.carries, rfl⟩

/-- The pass ends if every result enters something and no slug comes twice. -/
lemma foldlM_enterQuote {quotes quotes' : Entries} {results : List LatestPriceBatchResult}
    (hquotes : (quotes.map Prod.fst).Nodup) :
    results.foldlM (enterQuote requestedSlugs quoteCurrency) quotes = .ok quotes' ↔
      ∃ entries, List.Forall₂ (Enters requestedSlugs quoteCurrency) results entries ∧
        quotes' = quotes ++ entries ∧ (quotes'.map Prod.fst).Nodup := by
  induction results generalizing quotes with
  | nil =>
    simp only [List.foldlM_nil, pure, Except.pure, Except.ok.injEq, List.forall₂_nil_left_iff]
    constructor
    · rintro rfl
      exact ⟨[], rfl, by simp, hquotes⟩
    · rintro ⟨_, rfl, h, -⟩
      simpa using h.symm
  | cons result results ih =>
    rw [List.foldlM_cons, bind_eq_ok]
    simp only [enterQuote_eq_ok]
    have hnodup (entry : String × StrictLatestQuote) (hnew : entry.1 ∉ quotes.map Prod.fst) :
        ((quotes ++ [entry]).map Prod.fst).Nodup := by
      rw [List.map_append]
      exact List.Nodup.append hquotes (by simp) (by simpa using hnew)
    constructor
    · rintro ⟨_, ⟨entry, hentry, hnew, rfl⟩, h⟩
      obtain ⟨entries, hentries, rfl, hall⟩ := (ih (hnodup entry hnew)).mp h
      exact ⟨entry :: entries, .cons hentry hentries, by simp, hall⟩
    · rintro ⟨_, hforall, rfl, hall⟩
      obtain ⟨entry, entries, hentry, hentries, rfl⟩ := List.forall₂_cons_left_iff.mp hforall
      have hnew : entry.1 ∉ quotes.map Prod.fst := by
        intro hmem
        rw [List.map_append] at hall
        exact (List.disjoint_of_nodup_append hall) hmem (by simp)
      refine ⟨_, ⟨entry, hentry, hnew, rfl⟩, (ih (hnodup entry hnew)).mpr ?_⟩
      exact ⟨entries, hentries, by simp, by simpa using hall⟩

variable {response : LatestPriceBatchResponse} {entries : Entries}

lemma map_fst_of_enters {results : List LatestPriceBatchResult}
    (h : List.Forall₂ (Enters requestedSlugs quoteCurrency) results entries) :
    entries.map Prod.fst = results.map fun result => normalizeSlug result.normalizedSlug := by
  induction h with
  | nil => rfl
  | cons hentry _ ih => rw [List.map_cons, List.map_cons, ih, hentry.slug]

/-- Distinct slugs that are all requested, and as many as were requested, are the request. -/
lemma slugs_perm
    (hentries : List.Forall₂ (Enters requestedSlugs quoteCurrency) response.results entries)
    (hnodup : (entries.map Prod.fst).Nodup)
    (hlength : response.results.length = requestedSlugs.length) :
    (response.results.map fun result => normalizeSlug result.normalizedSlug).Perm
      requestedSlugs := by
  have hslugs := map_fst_of_enters hentries
  rw [hslugs] at hnodup
  have hsubset : (response.results.map fun result => normalizeSlug result.normalizedSlug) ⊆
      requestedSlugs := by
    intro slug hslug
    obtain ⟨result, hresult, rfl⟩ := List.mem_map.mp hslug
    obtain ⟨entry, -, hentry⟩ := exists_of_forall₂ hentries hresult
    exact hentry.requested
  exact (hnodup.subperm hsubset).perm_of_length_le (by simp [hlength])

/-- What the validator accepts, result by result. -/
lemma validateStrictPriceBatch_eq_ok {quotes : String → Option StrictLatestQuote}
    (hdistinct : requestedSlugs.Nodup) :
    validateStrictPriceBatch response requestedSlugs quoteCurrency = .ok quotes ↔
      AnswersRequest response requestedSlugs quoteCurrency ∧
        ∃ entries, List.Forall₂ (Enters requestedSlugs quoteCurrency) response.results entries ∧
          quotes = ofPairs entries := by
  have hpass (quotes' : Entries) :
      response.results.foldlM (enterQuote requestedSlugs quoteCurrency) [] = .ok quotes' ↔ _ :=
    foldlM_enterQuote List.nodup_nil
  unfold validateStrictPriceBatch
  simp only [ensure_bind_eq_ok, bind_eq_ok (α := Entries), Bool.not_eq_true',
    Bool.or_eq_false_iff, bne_eq_false_iff_eq, hpass,
    List.nil_append, beq_iff_eq, pure, Except.pure, Except.ok.injEq]
  constructor
  · rintro ⟨⟨⟨⟨hcurrency, hrequested⟩, hunique⟩, hlength⟩, entries,
      ⟨_, hentries, rfl, hnodup⟩, -, rfl⟩
    refine ⟨⟨hcurrency, hrequested, hunique, slugs_perm hentries hnodup hlength, ?_, ?_⟩,
      entries, hentries, rfl⟩
    · intro result hresult
      obtain ⟨entry, -, hentry⟩ := exists_of_forall₂ hentries hresult
      exact hentry.agrees
    · intro result hresult
      obtain ⟨entry, -, hentry⟩ := exists_of_forall₂ hentries hresult
      exact ⟨entry.2, hentry.carries⟩
  · rintro ⟨h, entries, hentries, rfl⟩
    have hlength : response.results.length = requestedSlugs.length := by
      simpa using h.slugs.length_eq
    refine ⟨⟨⟨⟨h.currency, h.requestedCount⟩, h.uniqueCount⟩, hlength⟩, entries,
      ⟨entries, hentries, rfl, ?_⟩, ?_, rfl⟩
    · rw [map_fst_of_enters hentries]
      exact (h.slugs.nodup_iff).mpr hdistinct
    · rw [← hentries.length_eq, hlength]

/-! ### Any order of the results -/

lemma exists_enters (h : AnswersRequest response requestedSlugs quoteCurrency) :
    ∃ entries, List.Forall₂ (Enters requestedSlugs quoteCurrency) response.results entries := by
  have hall (result : LatestPriceBatchResult) (hresult : result ∈ response.results) :
      ∃ entry, Enters requestedSlugs quoteCurrency result entry := by
    obtain ⟨quote, hquote⟩ := h.consistent result hresult
    have hmem := h.slugs.mem_iff.mp (List.mem_map_of_mem hresult)
    exact ⟨(normalizeSlug result.normalizedSlug, quote), rfl, h.agrees result hresult, hmem, hquote⟩
  clear h
  revert hall
  induction response.results with
  | nil => exact fun _ => ⟨[], .nil⟩
  | cons result results ih =>
    intro hall
    obtain ⟨entry, hentry⟩ := hall result List.mem_cons_self
    obtain ⟨entries, hentries⟩ := ih fun r hr => hall r (List.mem_cons_of_mem _ hr)
    exact ⟨entry :: entries, .cons hentry hentries⟩

lemma nodup_entries (hdistinct : requestedSlugs.Nodup)
    (h : AnswersRequest response requestedSlugs quoteCurrency)
    (hentries : List.Forall₂ (Enters requestedSlugs quoteCurrency) response.results entries) :
    (entries.map Prod.fst).Nodup := by
  rw [map_fst_of_enters hentries]
  exact h.slugs.nodup_iff.mpr hdistinct

lemma Carries.unique {slug : String} {result : LatestPriceBatchResult}
    {quote quote' : StrictLatestQuote} (h : Carries quoteCurrency slug result quote)
    (h' : Carries quoteCurrency slug result quote') : quote = quote' := by
  rw [← strictQuote_eq_ok] at h h'
  rw [h, Except.ok.injEq] at h'
  exact h'

lemma quotes_iff {quotes : String → Option StrictLatestQuote} (hdistinct : requestedSlugs.Nodup)
    (h : validateStrictPriceBatch response requestedSlugs quoteCurrency = .ok quotes)
    {slug : String} {quote : StrictLatestQuote} :
    quotes slug = some quote ↔ ∃ result ∈ response.results,
      normalizeSlug result.normalizedSlug = slug ∧ Carries quoteCurrency slug result quote := by
  obtain ⟨hanswers, entries, hentries, rfl⟩ := (validateStrictPriceBatch_eq_ok hdistinct).mp h
  rw [ofPairs_eq_some (nodup_entries hdistinct hanswers hentries)]
  constructor
  · intro hmem
    obtain ⟨result, hresult, hentry⟩ := exists_of_forall₂ hentries.flip hmem
    have hslug : slug = normalizeSlug result.normalizedSlug := hentry.slug
    subst hslug
    exact ⟨result, hresult, rfl, hentry.carries⟩
  · rintro ⟨result, hresult, hslug, hquote⟩
    subst hslug
    obtain ⟨⟨slug, quote'⟩, hmem, hentry⟩ := exists_of_forall₂ hentries hresult
    have hslug : slug = normalizeSlug result.normalizedSlug := hentry.slug
    subst hslug
    exact hquote.unique hentry.carries ▸ hmem

lemma AnswersRequest.perm {response' : LatestPriceBatchResponse}
    (h : AnswersRequest response requestedSlugs quoteCurrency)
    (hsame : { response' with results := response.results } = response)
    (hperm : response'.results.Perm response.results) :
    AnswersRequest response' requestedSlugs quoteCurrency := by
  have hcurrency : response'.quoteCurrency = response.quoteCurrency := by rw [← hsame]
  have hrequested : response'.requestedCount = response.requestedCount := by rw [← hsame]
  have hunique : response'.uniqueCount = response.uniqueCount := by rw [← hsame]
  exact {
    currency := hcurrency ▸ h.currency
    requestedCount := hrequested ▸ h.requestedCount
    uniqueCount := hunique ▸ h.uniqueCount
    slugs := (hperm.map _).trans h.slugs
    agrees := fun result hresult => h.agrees result (hperm.mem_iff.mp hresult)
    consistent := fun result hresult => h.consistent result (hperm.mem_iff.mp hresult) }

/-- A permuted batch is accepted with the same quotes. -/
lemma validateStrictPriceBatch_perm_ok {response' : LatestPriceBatchResponse}
    {quotes : String → Option StrictLatestQuote} (hdistinct : requestedSlugs.Nodup)
    (hsame : { response' with results := response.results } = response)
    (hperm : response'.results.Perm response.results)
    (h : validateStrictPriceBatch response requestedSlugs quoteCurrency = .ok quotes) :
    validateStrictPriceBatch response' requestedSlugs quoteCurrency = .ok quotes := by
  obtain ⟨hanswers, entries, hentries, rfl⟩ := (validateStrictPriceBatch_eq_ok hdistinct).mp h
  obtain ⟨entries', hentries', hperm'⟩ := List.perm_comp_forall₂ hperm hentries
  refine (validateStrictPriceBatch_eq_ok hdistinct).mpr
    ⟨hanswers.perm hsame hperm, entries', hentries', ?_⟩
  exact ofPairs_perm (nodup_entries hdistinct hanswers hentries) hperm'.symm

lemma error_of_ensure {passes : Bool} {error : StrictPriceBatchError}
    (h : ensure passes = .error error) : error = .malformedResponse := by
  cases passes <;> simp_all [ensure]

lemma error_of_present {α : Type} {x : Option α} {error : StrictPriceBatchError}
    (h : present x = .error error) : error = .malformedResponse := by
  cases x <;> simp_all [present]

lemma error_of_ensure_return {α : Type} {passes : Bool} {a : α} {error : StrictPriceBatchError}
    (h : (do ensure passes; return a) = .error error) : error = .malformedResponse := by
  rcases bind_eq_error.mp h with h | ⟨_, -, h⟩
  · exact error_of_ensure h
  · cases h

lemma error_of_strictQuote {slug : String} {result : LatestPriceBatchResult}
    {error : StrictPriceBatchError} (h : strictQuote quoteCurrency slug result = .error error) :
    error = .malformedResponse := by
  unfold strictQuote at h
  split at h
  · rcases bind_eq_error.mp h with h | ⟨price, -, h⟩
    · exact error_of_present h
    rcases bind_eq_error.mp h with h | ⟨outer, -, h⟩
    · exact error_of_present h
    · exact error_of_ensure_return h
  · exact error_of_ensure_return h
  · exact error_of_ensure_return h
  · exact error_of_ensure_return h
  · cases h
    rfl

lemma error_of_enterQuote {quotes : Entries} {result : LatestPriceBatchResult}
    {error : StrictPriceBatchError}
    (h : enterQuote requestedSlugs quoteCurrency quotes result = .error error) :
    error = .malformedResponse := by
  unfold enterQuote at h
  rcases bind_eq_error.mp h with h | ⟨_, -, h⟩
  · exact error_of_ensure h
  rcases bind_eq_error.mp h with h | ⟨quote, -, h⟩
  · exact error_of_strictQuote h
  · cases h

lemma error_of_validateStrictPriceBatch {error : StrictPriceBatchError}
    (h : validateStrictPriceBatch response requestedSlugs quoteCurrency = .error error) :
    error = .malformedResponse := by
  unfold validateStrictPriceBatch at h
  rcases bind_eq_error.mp h with h | ⟨_, -, h⟩
  · exact error_of_ensure h
  rcases bind_eq_error.mp h with h | ⟨quotes, -, h⟩
  · obtain ⟨quotes, result, -, h⟩ := exists_of_foldlM_eq_error h
    exact error_of_enterQuote h
  · exact error_of_ensure_return h

/-- **The strict batch** is accepted exactly if it answers the request, whatever the batch is.
What is accepted has the requested slugs and no others, each with the quote its own result
carries, and neither the verdict nor the quotes depend on the order of the results. -/
theorem validateStrictPriceBatch_spec (response : LatestPriceBatchResponse)
    (requestedSlugs : List String) (quoteCurrency : String) (hdistinct : requestedSlugs.Nodup) :
    ((∃ quotes, validateStrictPriceBatch response requestedSlugs quoteCurrency = .ok quotes) ↔
      AnswersRequest response requestedSlugs quoteCurrency) ∧
    (∀ quotes, validateStrictPriceBatch response requestedSlugs quoteCurrency = .ok quotes →
      (∀ slug, (∃ quote, quotes slug = some quote) ↔ slug ∈ requestedSlugs) ∧
      ∀ result ∈ response.results, ∃ quote,
        Carries quoteCurrency (normalizeSlug result.normalizedSlug) result quote ∧
        quotes (normalizeSlug result.normalizedSlug) = some quote) ∧
    ∀ results, results.Perm response.results →
      validateStrictPriceBatch { response with results := results } requestedSlugs quoteCurrency =
        validateStrictPriceBatch response requestedSlugs quoteCurrency := by
  refine ⟨⟨?_, ?_⟩, ?_, ?_⟩
  · rintro ⟨quotes, h⟩
    exact ((validateStrictPriceBatch_eq_ok hdistinct).mp h).1
  · intro h
    obtain ⟨entries, hentries⟩ := exists_enters h
    exact ⟨_, (validateStrictPriceBatch_eq_ok hdistinct).mpr ⟨h, entries, hentries, rfl⟩⟩
  · intro quotes h
    have hanswers := ((validateStrictPriceBatch_eq_ok hdistinct).mp h).1
    have hcarried (result : LatestPriceBatchResult) (hresult : result ∈ response.results) :
        ∃ quote, Carries quoteCurrency (normalizeSlug result.normalizedSlug) result quote ∧
          quotes (normalizeSlug result.normalizedSlug) = some quote := by
      obtain ⟨quote, hquote⟩ := hanswers.consistent result hresult
      exact ⟨quote, hquote, (quotes_iff hdistinct h).mpr ⟨result, hresult, rfl, hquote⟩⟩
    refine ⟨fun slug => ?_, hcarried⟩
    rw [← hanswers.slugs.mem_iff, List.mem_map]
    constructor
    · rintro ⟨quote, hquote⟩
      obtain ⟨result, hresult, hslug, -⟩ := (quotes_iff hdistinct h).mp hquote
      exact ⟨result, hresult, hslug⟩
    · rintro ⟨result, hresult, rfl⟩
      obtain ⟨quote, -, hquote⟩ := hcarried result hresult
      exact ⟨quote, hquote⟩
  · intro results hperm
    -- the verdict goes both ways along the permutation, and there is one error only
    cases h : validateStrictPriceBatch response requestedSlugs quoteCurrency with
    | ok quotes => exact validateStrictPriceBatch_perm_ok hdistinct rfl hperm h
    | error error =>
      cases h' : validateStrictPriceBatch { response with results := results } requestedSlugs
          quoteCurrency with
      | ok quotes =>
        have hok : validateStrictPriceBatch response requestedSlugs quoteCurrency = .ok quotes :=
          validateStrictPriceBatch_perm_ok hdistinct rfl hperm.symm h'
        rw [h] at hok
        cases hok
      | error error' =>
        rw [error_of_validateStrictPriceBatch h, error_of_validateStrictPriceBatch h']

/-- Two results in another order than the request. -/
def sampleBatch : LatestPriceBatchResponse where
  quoteCurrency := "usd"
  requestedCount := 2
  uniqueCount := 2
  results := [
    { requestedSlug := "weth", normalizedSlug := "weth", slug := none, status := .unknown
      freshnessStatus := none, price := none, hasError := true },
    { requestedSlug := " USDC", normalizedSlug := "usdc", slug := some "usdc", status := .found
      freshnessStatus := some .fresh
      price := some { slug := "usdc", quoteCurrency := "USD", price := "1.01"
                      recordedAt := "2026-08-01T00:00:00Z", freshnessStatus := .fresh }
      hasError := false }]

theorem validateStrictPriceBatch_spec_sample :
    ["usdc", "weth"].Nodup ∧ AnswersRequest sampleBatch ["usdc", "weth"] "USD" :=
  have hdistinct : ["usdc", "weth"].Nodup := by decide
  ⟨hdistinct, (validateStrictPriceBatch_spec sampleBatch ["usdc", "weth"] "USD" hdistinct).1.mp
    ⟨_, eq_ok_value (validateStrictPriceBatch sampleBatch ["usdc", "weth"] "USD")
      (by decide +kernel)⟩⟩

end MotherApi.StrictPrices
