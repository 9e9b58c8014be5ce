import MotherApi.Lib.Groups
import MotherApi.StrictPrices

/-!
The prices of a list of assets, asked for in chunks.

Every requested slug starts as unavailable, and each chunk's answer is entered on top of what is
there. An answer is entered under the slugs that it names, whether they were asked for or not, so
that one chunk can price the assets of another, and assets that nobody has asked about.
-/

namespace MotherApi.LatestPrices

open MotherApi.Lib.Groups MotherApi.Lib.Tables MotherApi.Strings MotherApi.StrictPrices

inductive PriceStatus
  | available | stale | degraded | unavailable
  deriving DecidableEq

structure LatestAssetPrice where
  status : PriceStatus
  price : Option String
  quoteCurrency : Option String
  sourceType : Option String
  confidenceLabel : Option String
  isFallback : Bool
  isDerived : Bool
  recordedAt : Option String
  warning : Option String
  deriving DecidableEq

def LatestAssetPrice.unavailable : LatestAssetPrice :=
  ⟨.unavailable, none, none, none, none, false, false, none, none⟩

inductive PriceLookupError
  | invalidSlug
  | unavailable (status : Option ℕ) (code : Option String)
  | unauthorized
  | timeout
  | transport
  | malformedResponse
  deriving DecidableEq

/-- The parts of a price that the listing shows, besides those that the strict reader checks. -/
structure BatchPrice extends BatchLatestPriceResponse where
  sourceType : String
  confidenceLabel : Option String
  isFallback : Bool
  isDerived : Bool
  deriving DecidableEq

/-- The parts of a result that are read here. -/
structure BatchResult where
  normalizedSlug : String
  status : PriceBatchResultStatus
  price : Option BatchPrice
  deriving DecidableEq

structure BatchRequest where
  slugs : List String
  quoteCurrency : String
  deriving DecidableEq

/-- What comes of a request: an error of the transport, or a status with a body, which is read as a
batch or as the code of an error. -/
inductive Exchange
  | failed (isTimeout : Bool)
  | answered (status : ℕ) (batch : Option (List BatchResult)) (code : Option String)
  deriving DecidableEq

/-- The price indexer by the number of requests before. -/
abbrev PriceIndexer := ℕ → BatchRequest → Exchange

/-! ### The code -/

def mapReqwestError (isTimeout : Bool) : PriceLookupError :=
  if isTimeout then .timeout else .transport

def mapErrorResponse (status : ℕ) (code : Option String) : PriceLookupError :=
  if status = 400 then .invalidSlug
  else if status = 401 then .unauthorized
  else .unavailable (some status) code

/-- The fresh, the stale and the degraded price differ in their status and their warning. -/
def withStatus (parts : BatchPrice) (status : PriceStatus) (warning : Option String) :
    LatestAssetPrice :=
  ⟨status, some parts.price, some parts.quoteCurrency, some parts.sourceType,
    parts.confidenceLabel, parts.isFallback, parts.isDerived, some parts.recordedAt, warning⟩

def latestAssetPriceFromParts (parts : BatchPrice) : LatestAssetPrice :=
  match parts.freshnessStatus with
  | .fresh => withStatus parts .available none
  | .stale => withStatus parts .stale (some "Price may be stale.")
  | .degraded => withStatus parts .degraded (some "Price quality is degraded.")
  | .unavailable | .unknown => .unavailable

/-- The entry of one result. -/
def entryOf (result : BatchResult) : Option (String × LatestAssetPrice) :=
  let normalizedSlug := normalizeSlug result.normalizedSlug
  if normalizedSlug = "" then none
  else
    let price := match result.status, result.price with
      | .found, some price => latestAssetPriceFromParts price
      | _, _ => .unavailable
    some (normalizedSlug, price)

def mapLatestPriceBatchResponse (results : List BatchResult) :
    String → Option LatestAssetPrice :=
  ofPairs (results.filterMap entryOf)

def latestBySlugChunk (post : PriceIndexer) (call : ℕ) (slugs : List String)
    (quoteCurrency : String) : Except PriceLookupError (String → Option LatestAssetPrice) :=
  if slugs = [] then .ok fun _ => none
  else
    match post call ⟨slugs, quoteCurrency⟩ with
    | .failed isTimeout => .error (mapReqwestError isTimeout)
    | .answered status batch code =>
      if 200 ≤ status ∧ status < 300 then
        match batch with
        | none => .error .malformedResponse
        | some results => .ok (mapLatestPriceBatchResponse results)
      else .error (mapErrorResponse status code)

/-- One round of the loop over the chunks. -/
def enterChunk (post : PriceIndexer) (quoteCurrency : String)
    (prices : String → Option LatestAssetPrice) (chunk : List String × ℕ) :
    String → Option LatestAssetPrice :=
  match latestBySlugChunk post chunk.2 chunk.1 quoteCurrency with
  | .ok chunkPrices => overlay prices chunkPrices
  | .error _ => prices

def latestBySlugs (post : PriceIndexer) (slugs : List String) (quoteCurrency : String) :
    String → Option LatestAssetPrice :=
  let normalizedSlugs := normalizeSlugs slugs
  let quoteCurrency := normalizeQuoteCurrency quoteCurrency
  let prices := ofPairs (normalizedSlugs.map fun slug => (slug, LatestAssetPrice.unavailable))
  (chunks PRICE_BATCH_MAX_SLUGS normalizedSlugs).zipIdx.foldl (enterChunk post quoteCurrency) prices

/-! ### What a chunk answers -/

section

variable (post : PriceIndexer) (slugs : List String) (quoteCurrency : String)

/-- The chunks that are asked for. -/
def asked : List (List String) := chunks PRICE_BATCH_MAX_SLUGS (normalizeSlugs slugs)

/-- What the answer to a chunk says about a slug. A chunk that failed says nothing. -/
def answered (k : ℕ) (slug : String) : Option LatestAssetPrice :=
  (asked slugs)[k]?.bind fun chunk =>
    (latestBySlugChunk post k chunk (normalizeQuoteCurrency quoteCurrency)).toOption.bind
      fun prices => prices slug

/-- **A batch prices what it was asked for**: exactly the requested slugs, each as the answer to its
own chunk has it. -/
structure PricesRequested : Prop where
  keys : ∀ slug, (latestBySlugs post slugs quoteCurrency slug).isSome ↔ slug ∈ normalizeSlugs slugs
  own : ∀ k chunk, (asked slugs)[k]? = some chunk → ∀ slug ∈ chunk,
    latestBySlugs post slugs quoteCurrency slug =
      some ((answered post slugs quoteCurrency k slug).getD .unavailable)

/-- The last answer to name a slug has the price that the answer to the chunk of the slug has. -/
def AnswersAgree : Prop :=
  ∀ k slug price, answered post slugs quoteCurrency k slug = some price →
    (∀ j, k < j → answered post slugs quoteCurrency j slug = none) →
      ∃ own chunk, (asked slugs)[own]? = some chunk ∧ slug ∈ chunk ∧
        price = (answered post slugs quoteCurrency own slug).getD .unavailable

/-- Every answer names slugs of its own chunk only. -/
def AnswersOwn : Prop :=
  ∀ k chunk, (asked slugs)[k]? = some chunk → ∀ slug price,
    answered post slugs quoteCurrency k slug = some price → slug ∈ chunk

end

section

variable {post : PriceIndexer} {slugs : List String} {quoteCurrency : String}

lemma foldl_enterChunk (prices : String → Option LatestAssetPrice) (l : List (List String × ℕ)) :
    l.foldl (enterChunk post quoteCurrency) prices =
      (l.map fun chunk slug => (latestBySlugChunk post chunk.2 chunk.1 quoteCurrency).toOption.bind
        fun prices => prices slug).foldl overlay prices := by
  induction l generalizing prices with
  | nil => rfl
  | cons chunk l ih =>
    have hround : enterChunk post quoteCurrency prices chunk = overlay prices fun slug =>
        (latestBySlugChunk post chunk.2 chunk.1 quoteCurrency).toOption.bind
          fun prices => prices slug := by
      funext slug
      unfold enterChunk overlay
      cases latestBySlugChunk post chunk.2 chunk.1 quoteCurrency with
      | error e => rfl
      | ok chunkPrices => rfl
    rw [List.foldl_cons, List.map_cons, List.foldl_cons, ih, hround]

lemma nodup_normalizeSlugs (slugs : List String) : (normalizeSlugs slugs).Nodup :=
  BalanceCommand.nodup_eraseDups _

/-- The loop lays the answers on top of each other. -/
lemma latestBySlugs_eq : ∃ answers : List (String → Option LatestAssetPrice),
    latestBySlugs post slugs quoteCurrency = answers.foldl overlay
      (ofPairs ((normalizeSlugs slugs).map fun slug => (slug, LatestAssetPrice.unavailable))) ∧
    ∀ k slug, entryAt answers k slug = answered post slugs quoteCurrency k slug := by
  refine ⟨_, foldl_enterChunk _ _, fun k slug => ?_⟩
  unfold entryAt answered asked
  rw [List.getElem?_map, List.getElem?_zipIdx]
  cases (chunks PRICE_BATCH_MAX_SLUGS (normalizeSlugs slugs))[k]? with
  | none => rfl
  | some chunk => simp

lemma latestBySlugs_eq_some {slug : String} {price : LatestAssetPrice} :
    latestBySlugs post slugs quoteCurrency slug = some price ↔
      (∃ k, answered post slugs quoteCurrency k slug = some price ∧
        ∀ j, k < j → answered post slugs quoteCurrency j slug = none) ∨
      (∀ k, answered post slugs quoteCurrency k slug = none) ∧ slug ∈ normalizeSlugs slugs ∧
        price = .unavailable := by
  obtain ⟨answers, hloop, hanswers⟩ := @latestBySlugs_eq post slugs quoteCurrency
  have hnodup : (((normalizeSlugs slugs).map fun slug =>
      (slug, LatestAssetPrice.unavailable)).map Prod.fst).Nodup := by
    simpa [Function.comp_def] using nodup_normalizeSlugs slugs
  rw [hloop, foldl_overlay_eq_some, ofPairs_eq_some hnodup]
  simp only [hanswers, List.mem_map, Prod.mk.injEq]
  refine or_congr Iff.rfl (and_congr Iff.rfl ⟨?_, ?_⟩)
  · rintro ⟨_, hslug, rfl, rfl⟩
    exact ⟨hslug, rfl⟩
  · rintro ⟨hslug, rfl⟩
    exact ⟨slug, hslug, rfl, rfl⟩

lemma exists_latestBySlugs {slug : String} (h : slug ∈ normalizeSlugs slugs) :
    ∃ price, latestBySlugs post slugs quoteCurrency slug = some price := by
  cases hprice : latestBySlugs post slugs quoteCurrency slug with
  | some price => exact ⟨price, rfl⟩
  | none =>
    obtain ⟨answers, hloop, -⟩ := @latestBySlugs_eq post slugs quoteCurrency
    rw [hloop, foldl_overlay_eq_none] at hprice
    obtain ⟨price, hsome⟩ := exists_ofPairs
      (show slug ∈ ((normalizeSlugs slugs).map fun slug =>
        (slug, LatestAssetPrice.unavailable)).map Prod.fst by simpa using h)
    rw [hprice.2] at hsome
    cases hsome

/-! ### The chunk of a slug -/

lemma exists_own {slug : String} (h : slug ∈ normalizeSlugs slugs) :
    ∃ (own : ℕ) (chunk : List String), (asked slugs)[own]? = some chunk ∧ slug ∈ chunk := by
  rw [← flatten_chunks (show 0 < PRICE_BATCH_MAX_SLUGS by decide) (normalizeSlugs slugs)] at h
  obtain ⟨chunk, hchunk, hslug⟩ := List.mem_flatten.mp h
  obtain ⟨own, hown⟩ := List.mem_iff_getElem?.mp hchunk
  exact ⟨own, chunk, hown, hslug⟩

lemma mem_of_own {slug : String} {own : ℕ} {chunk : List String}
    (h : (asked slugs)[own]? = some chunk) (hslug : slug ∈ chunk) : slug ∈ normalizeSlugs slugs :=
  (mem_chunks (by decide) (List.mem_of_getElem? h)).2.2.subset hslug

lemma own_unique {slug : String} {own own' : ℕ} {chunk chunk' : List String}
    (h : (asked slugs)[own]? = some chunk) (hslug : slug ∈ chunk)
    (h' : (asked slugs)[own']? = some chunk') (hslug' : slug ∈ chunk') : own = own' := by
  have hpairwise := (pairwise_chunks (show 0 < PRICE_BATCH_MAX_SLUGS by decide)
    (nodup_normalizeSlugs slugs)).2
  obtain ⟨hlt, rfl⟩ := List.getElem?_eq_some_iff.mp h
  obtain ⟨hlt', rfl⟩ := List.getElem?_eq_some_iff.mp h'
  by_contra hne
  rcases Nat.lt_or_gt_of_ne hne with hbefore | hbefore
  · exact List.pairwise_iff_getElem.mp hpairwise _ _ hlt hlt' hbefore _ hslug _ hslug' rfl
  · exact List.pairwise_iff_getElem.mp hpairwise _ _ hlt' hlt hbefore _ hslug' _ hslug rfl

lemma pricesRequested_of_agree (h : AnswersAgree post slugs quoteCurrency) :
    PricesRequested post slugs quoteCurrency where
  keys slug := by
    constructor
    · intro hsome
      obtain ⟨price, hprice⟩ := Option.isSome_iff_exists.mp hsome
      rcases latestBySlugs_eq_some.mp hprice with ⟨k, hk, hlater⟩ | ⟨-, hslug, -⟩
      · obtain ⟨own, chunk, hown, hslug, -⟩ := h k slug price hk hlater
        exact mem_of_own hown hslug
      · exact hslug
    · intro hslug
      obtain ⟨price, hprice⟩ := exists_latestBySlugs hslug
      exact Option.isSome_iff_exists.mpr ⟨price, hprice⟩
  own own chunk hown slug hslug := by
    obtain ⟨price, hprice⟩ := exists_latestBySlugs (mem_of_own hown hslug)
    rw [hprice, Option.some.injEq]
    rcases latestBySlugs_eq_some.mp hprice with ⟨k, hk, hlater⟩ | ⟨hnone, -, rfl⟩
    · obtain ⟨own', chunk', hown', hslug', rfl⟩ := h k slug price hk hlater
      rw [own_unique hown hslug hown' hslug']
    · rw [hnone own, Option.getD_none]

lemma agree_of_pricesRequested (h : PricesRequested post slugs quoteCurrency) :
    AnswersAgree post slugs quoteCurrency := by
  intro k slug price hk hlater
  have hprice := latestBySlugs_eq_some.mpr (Or.inl ⟨k, hk, hlater⟩)
  obtain ⟨own, chunk, hown, hslug⟩ :=
    exists_own ((h.keys slug).mp (Option.isSome_iff_exists.mpr ⟨price, hprice⟩))
  refine ⟨own, chunk, hown, hslug, Option.some.inj ?_⟩
  rw [← hprice, h.own own chunk hown slug hslug]

lemma agree_of_own (h : AnswersOwn post slugs quoteCurrency) :
    AnswersAgree post slugs quoteCurrency := by
  intro k slug price hk hlater
  obtain ⟨chunk, hchunk, -⟩ := Option.bind_eq_some_iff.mp hk
  exact ⟨k, chunk, hchunk, h k chunk hchunk slug price hk, by rw [hk, Option.getD_some]⟩

end

/-- **A batch prices what it was asked for exactly if the answers agree** on whose prices they give,
as they do where every answer names slugs of its own chunk only. -/
theorem pricesRequested_iff (post : PriceIndexer) (slugs : List String) (quoteCurrency : String) :
    (PricesRequested post slugs quoteCurrency ↔ AnswersAgree post slugs quoteCurrency) ∧
      (AnswersOwn post slugs quoteCurrency → PricesRequested post slugs quoteCurrency) :=
  ⟨⟨agree_of_pricesRequested, pricesRequested_of_agree⟩,
    fun h => pricesRequested_of_agree (agree_of_own h)⟩

/-- An indexer that is asked for the price of one asset and gives that of another. -/
def strayIndexer : PriceIndexer := fun _ _ =>
  .answered 200 (some [⟨"wrapped-bitcoin", .found,
    some ⟨⟨"wrapped-bitcoin", "USD", "1", "2026-01-01T00:00:00Z", .fresh⟩, "spot", none, false,
      false⟩⟩]) none

/-- The price of an asset that was not asked for is in the answer. -/
theorem pricesRequested_strayIndexer :
    ¬PricesRequested strayIndexer ["usd-coin"] "USD" := by
  intro h
  have hkey := (h.keys "wrapped-bitcoin").mp (by decide +kernel)
  exact absurd hkey (by decide +kernel)

end MotherApi.LatestPrices
