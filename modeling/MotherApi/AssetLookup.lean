import MotherApi.RegistryAnswers

/-!
Finding an asset by what somebody typed.

A query is put in lower case, its accents are folded, and whatever is neither a letter nor a
digit becomes a blank. It is then compared with the slugs, symbols, names and aliases of the
registry as they are written there. A slug may have hyphens, and a normalized query has none.

Lower case and the classes of characters are those of Unicode; all that is used of them is
what they are on ASCII.
-/

namespace MotherApi.AssetLookup

open MotherApi.Lib.Fallible MotherApi.Strings MotherApi.Registry
open MotherApi.Registry.CanonicalRegistry MotherApi.RegistryAnswers
open MotherApi.RegistryValidation MotherApi.RegistryIndexes

/-- `str::to_lowercase` and `char::is_alphanumeric`. -/
structure Unicode where
  toLowercase : String → String
  isAlphanumeric : Char → Bool
  toLowercase_ascii : ∀ text : String, (∀ c ∈ text.toList, c.toNat < 128) →
    toLowercase text = toAsciiLowercase text
  isAlphanumeric_ascii : ∀ c : Char, c.toNat < 128 → isAlphanumeric c = c.isAlphanum

/-! ### The query -/

def MAX_QUERY_LENGTH : ℕ := 128

structure NormalizedQuery where
  raw : String
  normalized : String
  deriving DecidableEq

inductive QueryValidationError
  | missing | empty | tooLong
  deriving DecidableEq

def foldCommonAccent (character : Char) : Char :=
  if character ∈ ['á', 'à', 'â', 'ä', 'ã', 'å', 'ā'] then 'a'
  else if character ∈ ['é', 'è', 'ê', 'ë', 'ē'] then 'e'
  else if character ∈ ['í', 'ì', 'î', 'ï', 'ī'] then 'i'
  else if character ∈ ['ó', 'ò', 'ô', 'ö', 'õ', 'ō'] then 'o'
  else if character ∈ ['ú', 'ù', 'û', 'ü', 'ū'] then 'u'
  else if character = 'ñ' then 'n'
  else if character = 'ç' then 'c'
  else character

def splitWhitespace (text : List Char) : List (List Char) :=
  (text.splitOnP isWhitespace).filter (· ≠ [])

section

variable (unicode : Unicode)

def cleanCharacter (character : Char) : Char :=
  let folded := foldCommonAccent character
  if unicode.isAlphanumeric folded || isWhitespace folded then folded else ' '

def normalizeQuery (value : String) : String :=
  let cleaned := (unicode.toLowercase (trim value)).toList.map (cleanCharacter unicode)
  String.ofList ([' '].intercalate (splitWhitespace cleaned))

def parseQuery (value : Option String) : Except QueryValidationError NormalizedQuery := do
  let value ← value.elim (.error .missing) .ok
  let raw := trim value
  if raw = "" then .error .empty
  else if raw.toList.length > MAX_QUERY_LENGTH then .error .tooLong
  else return ⟨raw, normalizeQuery unicode raw⟩

end

/-! ### The answer -/

def confidenceText : CanonicalMatchConfidence → String
  | .slug => "slug_exact"
  | .symbol => "symbol_exact"
  | .name => "name_exact"
  | .aliasName => "alias_exact"

structure AssetPayload where
  assetId : String
  symbol : String
  name : String
  category : String
  deriving DecidableEq

def assetPayload (asset : CanonicalAsset) : AssetPayload where
  assetId := asset.slug
  symbol := asset.symbol
  name := asset.name
  category := asset.category.getD asset.assetKind

structure Recommendation where
  kind : String
  canonicalPath : String
  asset : AssetPayload
  reason : String
  deriving DecidableEq

def recommendation (asset : CanonicalAsset) : Recommendation :=
  ⟨"asset", asset.canonicalPath, assetPayload asset, "related_public_asset"⟩

inductive ResolveResult
  | asset (resourceUrl canonicalPath confidence : String) (asset : AssetPayload)
  | unknown (message : String) (recommendations : List Recommendation)
  deriving DecidableEq

structure ResolveResponse where
  ok : Bool
  responseType : String
  resolved : Bool
  query : NormalizedQuery
  result : ResolveResult
  deriving DecidableEq

def UNKNOWN_MESSAGE : String :=
  "Iron Burrow does not know this query publicly yet. Showing related recommendations instead."

def contains (text part : String) : Bool := text.toList.tails.any (part.toList.isPrefixOf ·)

def assetContains (asset : CanonicalAsset) (normalizedQuery : String) : Bool :=
  contains (toAsciiLowercase asset.slug) normalizedQuery
    || contains (toAsciiLowercase asset.symbol) normalizedQuery
    || contains (toAsciiLowercase asset.name) normalizedQuery
    || asset.aliases.any fun aliasName => contains (toAsciiLowercase aliasName) normalizedQuery

def recommendations (registry : CanonicalRegistry) (normalizedQuery : String) (limit : ℕ) :
    List CanonicalAsset :=
  let query := toAsciiLowercase normalizedQuery
  let found := ((registry.activeAssetIndexes.map registry.assets.get).filter fun asset =>
    assetContains asset query).take limit
  if found.isEmpty then registry.activeAssets limit else found

def assetResourceUrl (asset : CanonicalAsset) : String := "/v1/assets/" ++ asset.slug

/-- `ResolveService::resolve`. -/
def resolve (registry : CanonicalRegistry) (query : NormalizedQuery) : ResolveResponse :=
  match registry.findConfidentAsset query.normalized with
  | some assetMatch =>
    { ok := true
      responseType := "resolve"
      resolved := true
      query := query
      result := .asset (assetResourceUrl assetMatch.asset) assetMatch.asset.canonicalPath
        (confidenceText assetMatch.confidence) (assetPayload assetMatch.asset) }
  | none =>
    { ok := true
      responseType := "resolve"
      resolved := false
      query := query
      result := .unknown UNKNOWN_MESSAGE
        ((recommendations registry query.normalized 3).map recommendation) }

/-! ### A slug as a query -/

/-- The slug with a blank for each hyphen. -/
def spaced (slug : String) : String :=
  String.ofList (slug.toList.map fun c => if c = '-' then ' ' else c)

lemma toNat_of_slug {c : Char} (h : (c.isLower || c.isDigit || c == '-') = true) :
    c.toNat < 128 ∧ isWhitespace c = false := by
  have hbounds : 45 ≤ c.toNat ∧ c.toNat ≤ 122 ∧ c.toNat ≠ 0x85 := by
    simp only [Bool.or_eq_true, beq_iff_eq] at h
    rcases h with (h | h) | rfl
    · have h : (97 ≤ c.toNat && c.toNat ≤ 122) = true := h
      simp only [Bool.and_eq_true, decide_eq_true_eq] at h
      omega
    · have h : (48 ≤ c.toNat && c.toNat ≤ 57) = true := h
      simp only [Bool.and_eq_true, decide_eq_true_eq] at h
      omega
    · decide
  refine ⟨by omega, ?_⟩
  simp only [isWhitespace, Bool.or_eq_false_iff, Bool.and_eq_false_iff, decide_eq_false_iff_not,
    beq_eq_false_iff_ne]
  omega

lemma foldCommonAccent_ascii {c : Char} (h : c.toNat < 128) : foldCommonAccent c = c := by
  have hne (accent : Char) (haccent : 128 ≤ accent.toNat) : c ≠ accent := by
    rintro rfl
    omega
  have hnot (accents : List Char) (haccents : accents.all (128 ≤ ·.toNat) = true) :
      c ∉ accents := fun hmem => by
    have := of_decide_eq_true (List.all_eq_true.mp haccents c hmem)
    omega
  unfold foldCommonAccent
  rw [if_neg (hnot _ (by decide)), if_neg (hnot _ (by decide)), if_neg (hnot _ (by decide)),
    if_neg (hnot _ (by decide)), if_neg (hnot _ (by decide)), if_neg (hne _ (by decide)),
    if_neg (hne _ (by decide))]

section

variable {unicode : Unicode}

lemma cleanCharacter_of_slug {c : Char} (h : (c.isLower || c.isDigit || c == '-') = true) :
    cleanCharacter unicode c = if c = '-' then ' ' else c := by
  obtain ⟨hascii, hspace⟩ := toNat_of_slug h
  unfold cleanCharacter
  simp only [foldCommonAccent_ascii hascii, unicode.isAlphanumeric_ascii c hascii, hspace,
    Bool.or_false]
  by_cases hhyphen : c = '-'
  · subst hhyphen
    rfl
  · have halnum : c.isAlphanum = true := by
      simp only [Bool.or_eq_true, beq_iff_eq] at h
      rcases h with (h | h) | h
      · show (c.isUpper || c.isLower || c.isDigit) = true
        simp [h]
      · show (c.isAlpha || c.isDigit) = true
        simp [h]
      · exact absurd h hhyphen
    rw [if_pos halnum, if_neg hhyphen]

/-- The words of a slug are parted by its hyphens, and none of them is empty. -/
lemma words_of_slug {slug : List Char} (hnonempty : slug ≠ []) (hlast : slug.getLast? ≠ some '-')
    (hdouble : containsDoubleHyphen slug = false)
    (hslug : ∀ c ∈ slug, (c.isLower || c.isDigit || c == '-') = true) :
    ∃ first rest,
      (slug.map fun c => if c = '-' then ' ' else c).splitOnP isWhitespace = first :: rest ∧
      (first = [] → slug.head? = some '-') ∧ (∀ word ∈ rest, word ≠ []) ∧
      [' '].intercalate (first :: rest) = slug.map fun c => if c = '-' then ' ' else c := by
  induction slug with
  | nil => exact absurd rfl hnonempty
  | cons c slug ih =>
    have hspace := (toNat_of_slug (hslug c List.mem_cons_self)).2
    cases slug with
    | nil =>
      have hc : c ≠ '-' := by simpa using hlast
      refine ⟨[c], [], ?_, by simp, by simp, by simp [hc]⟩
      simp [hc, List.splitOnP_cons_eq_if_modifyHead, hspace]
    | cons d slug =>
      simp only [containsDoubleHyphen, Bool.or_eq_false_iff] at hdouble
      obtain ⟨first, rest, hsplit, hfirst, hrest, hjoin⟩ := ih (by simp) (by simpa using hlast)
        hdouble.2 fun x hx => hslug x (List.mem_cons_of_mem _ hx)
      rw [List.map_cons, List.splitOnP_cons_eq_if_modifyHead, hsplit]
      by_cases hc : c = '-'
      · -- the hyphen ends an empty word, and what follows it is no hyphen
        subst hc
        have hne : first ≠ [] := fun hnil => by
          have := hfirst hnil
          simp_all
        refine ⟨[], first :: rest, rfl, fun _ => rfl, ?_, ?_⟩
        · rintro word (_ | ⟨_, hword⟩)
          · exact hne
          · exact hrest word hword
        · simpa [List.intercalate] using hjoin
      · refine ⟨c :: first, rest, ?_, by simp, hrest, ?_⟩
        · simp [hc, hspace]
        · cases rest <;> simpa [List.intercalate, hc] using hjoin

/-- **A slug as a query** is the slug with a blank for each hyphen. -/
lemma normalizeQuery_of_slug {slug : String} (h : isAssetSlug slug = true) :
    normalizeQuery unicode slug = spaced slug := by
  have hall := isAssetSlug_all h
  have htrim : trim slug = slug := trim_of_no_whitespace fun c hc => (toNat_of_slug (hall c hc)).2
  have hlower : unicode.toLowercase slug = slug := by
    rw [unicode.toLowercase_ascii slug fun c hc => (toNat_of_slug (hall c hc)).1]
    exact toAsciiLowercase_of_slug h
  have hclean : slug.toList.map (cleanCharacter unicode) =
      slug.toList.map fun c => if c = '-' then ' ' else c :=
    List.map_congr_left fun c hc => cleanCharacter_of_slug (hall c hc)
  have hshape := h
  rw [isAssetSlug] at hshape
  split at hshape
  · cases hshape
  rename_i hhyphens
  simp only [Bool.or_eq_true, List.isEmpty_iff, beq_iff_eq, not_or, Bool.not_eq_true] at hhyphens
  obtain ⟨⟨⟨hnonempty, hhead⟩, hlast⟩, hdouble⟩ := hhyphens
  obtain ⟨first, rest, hsplit, hfirst, hrest, hjoin⟩ := words_of_slug hnonempty hlast hdouble hall
  have hwords : splitWhitespace (slug.toList.map fun c => if c = '-' then ' ' else c) =
      first :: rest := by
    rw [splitWhitespace, hsplit, List.filter_eq_self]
    intro word hword
    rcases List.mem_cons.mp hword with rfl | hword
    · simpa using fun hnil => hhead (hfirst hnil)
    · simpa using hrest word hword
  unfold normalizeQuery
  simp only [htrim, hlower, hclean, hwords, hjoin]
  rfl

lemma parseQuery_of_slug {slug : String} (h : isAssetSlug slug = true)
    (hlength : slug.toList.length ≤ MAX_QUERY_LENGTH) :
    parseQuery unicode (some slug) = .ok ⟨slug, spaced slug⟩ := by
  have hall := isAssetSlug_all h
  have htrim : trim slug = slug := trim_of_no_whitespace fun c hc => (toNat_of_slug (hall c hc)).2
  have hnonempty : slug ≠ "" := by
    rintro rfl
    exact absurd h (by decide)
  have hbound : ¬slug.toList.length > MAX_QUERY_LENGTH := by omega
  simp only [parseQuery, Option.elim_some, bind, Except.bind, htrim, if_neg hnonempty,
    if_neg hbound, normalizeQuery_of_slug h]
  rfl

end

lemma toAsciiLowercase_spaced {slug : String} (h : isAssetSlug slug = true) :
    toAsciiLowercase (spaced slug) = spaced slug := by
  simp only [toAsciiLowercase, spaced, String.toList_ofList, List.map_map]
  congr 1
  refine List.map_congr_left fun c hc => ?_
  rw [Function.comp_apply]
  split
  · rfl
  · exact toLower_of_slug (isAssetSlug_all h c hc)

lemma spaced_of_no_hyphen {slug : String} (h : '-' ∉ slug.toList) : spaced slug = slug := by
  have hmap : (slug.toList.map fun c => if c = '-' then ' ' else c) = slug.toList.map id := by
    refine List.map_congr_left fun c hc => if_neg ?_
    rintro rfl
    exact h hc
  rw [spaced, hmap, List.map_id, String.ofList_toList]

lemma spaced_not_slug {slug : String} (h : '-' ∈ slug.toList) :
    isAssetSlug (spaced slug) = false := by
  by_contra hslug
  rw [Bool.not_eq_false] at hslug
  have hblank : ' ' ∈ (spaced slug).toList := by
    rw [spaced, String.toList_ofList]
    exact List.mem_map.mpr ⟨'-', h, rfl⟩
  exact absurd (isAssetSlug_all hslug ' ' hblank) (by decide)

/-! ### Finding an asset by its slug -/

/-- The query is the symbol, the name or an alias of the asset. -/
def namedBy (query : String) (asset : CanonicalAsset) : Option CanonicalMatchConfidence :=
  if toAsciiLowercase asset.symbol = query then some .symbol
  else if toAsciiLowercase asset.name = query then some .name
  else if query ∈ asset.aliases then some .aliasName
  else none

/-- The query names the asset, and no other active asset that it names comes first. -/
def NamesFirst (catalog : Catalog) (query : String) (asset : CanonicalAsset) : Prop :=
  ∃ confidence, namedBy query asset = some confidence ∧
    ∀ other ∈ catalog.assets, isActive other.status = true → ∀ otherConfidence,
      namedBy query other = some otherConfidence →
        matchKey ⟨asset, confidence⟩ ≤ matchKey ⟨other, otherConfidence⟩

/-- The response is resolved, with the asset. -/
def ReturnsAsset (response : ResolveResponse) (asset : CanonicalAsset) : Prop :=
  response.resolved = true ∧ ∃ confidence, response.result =
    .asset (assetResourceUrl asset) asset.canonicalPath confidence (assetPayload asset)

section

variable {catalog : Catalog} {registry : CanonicalRegistry} {asset : CanonicalAsset}

/-- Assets are told apart by what is returned of them. -/
lemma returnsAsset_iff (h : BuiltFrom catalog registry) (hasset : asset ∈ catalog.assets)
    (query : NormalizedQuery) : ReturnsAsset (resolve registry query) asset ↔
      ∃ confidence, registry.findConfidentAsset query.normalized = some ⟨asset, confidence⟩ := by
  unfold resolve
  cases hfound : registry.findConfidentAsset query.normalized with
  | none => simp [ReturnsAsset]
  | some found =>
    obtain ⟨other, confidence⟩ := found
    have hother := ((findConfidentAsset_iff h _ _).mp hfound).1.1
    simp only [ReturnsAsset, true_and, ResolveResult.asset.injEq, Option.some.injEq,
      CanonicalAssetMatch.mk.injEq]
    constructor
    · rintro ⟨_, -, -, -, hpayload⟩
      have hslug : other.slug = asset.slug := congrArg AssetPayload.assetId hpayload
      exact ⟨confidence, asset_unique h hother hasset hslug, rfl⟩
    · rintro ⟨_, rfl, -⟩
      exact ⟨confidenceText confidence, rfl, rfl, rfl, rfl⟩

/-- Without hyphens the query is a slug, and a slug is found first. -/
lemma findConfidentAsset_of_slug (h : BuiltFrom catalog registry) (hasset : asset ∈ catalog.assets)
    (hactive : isActive asset.status = true) :
    registry.findConfidentAsset asset.slug = some ⟨asset, .slug⟩ := by
  have hlower := asset_slug_lower h hasset
  rw [findConfidentAsset_iff h]
  refine ⟨⟨hasset, hactive, by simp [foundBy, hlower]⟩, fun other hother => ?_⟩
  obtain ⟨other, confidence⟩ := other
  obtain ⟨hmem, -, hfound⟩ := hother
  by_cases hslug : other.slug = asset.slug
  · obtain rfl := asset_unique h hmem hasset hslug
    simp only [foundBy, hlower, if_true, Option.some.injEq] at hfound
    rw [hfound]
  · have hrank : 0 < confidence.rank := by
      simp only [foundBy, hlower, hslug, if_false] at hfound
      split_ifs at hfound <;> cases hfound <;> decide
    exact le_of_lt (Prod.Lex.toLex_lt_toLex.mpr (.inl hrank))

/-- A query that is no slug finds what it names. -/
lemma foundBy_eq_namedBy {query : String} (hquery : toAsciiLowercase query = query)
    (hnot : isAssetSlug query = false) (hslug : isAssetSlug asset.slug = true) :
    foundBy query asset = namedBy query asset := by
  have hne : asset.slug ≠ query := by
    rintro rfl
    rw [hnot] at hslug
    cases hslug
  simp only [foundBy, namedBy, hquery, if_neg hne]

lemma exists_findConfidentAsset_iff (h : BuiltFrom catalog registry)
    (hasset : asset ∈ catalog.assets) (hactive : isActive asset.status = true) {query : String}
    (hquery : toAsciiLowercase query = query) (hnot : isAssetSlug query = false) :
    (∃ confidence, registry.findConfidentAsset query = some ⟨asset, confidence⟩) ↔
      NamesFirst catalog query asset := by
  have hfound {other : CanonicalAsset} (hother : other ∈ catalog.assets) :
      foundBy query other = namedBy query other :=
    foundBy_eq_namedBy hquery hnot (validateAsset_slug (h.valid.assets other hother))
  simp only [findConfidentAsset_iff h, IsCandidate]
  constructor
  · rintro ⟨confidence, ⟨-, -, hconfidence⟩, hleast⟩
    rw [hfound hasset] at hconfidence
    refine ⟨confidence, hconfidence, fun other hother hothers c hc => ?_⟩
    exact hleast ⟨other, c⟩ ⟨hother, hothers, (hfound hother).trans hc⟩
  · rintro ⟨confidence, hconfidence, hleast⟩
    refine ⟨confidence, ⟨hasset, hactive, (hfound hasset).trans hconfidence⟩,
      fun other hother => ?_⟩
    obtain ⟨hmem, hothers, hc⟩ := hother
    exact hleast other.asset hmem hothers other.confidence ((hfound hmem).symm.trans hc)

end

/-- **An asset under its own slug.** The registry of an accepted catalog resolves the slug of an
active asset to the asset, if and only if the slug has no hyphen, or with blanks for its hyphens
it names the asset before any other. -/
theorem resolve_own_slug_iff (unicode : Unicode) {catalog : Catalog}
    (hcheck : validateCatalog catalog = .ok ()) : ∃ registry, fromCatalog catalog = .ok registry ∧
      ∀ asset ∈ catalog.assets, isActive asset.status = true →
        asset.slug.toList.length ≤ MAX_QUERY_LENGTH →
        ((∃ query, parseQuery unicode (some asset.slug) = .ok query ∧
            ReturnsAsset (resolve registry query) asset) ↔
          '-' ∉ asset.slug.toList ∨ NamesFirst catalog (spaced asset.slug) asset) := by
  obtain ⟨registry, hregistry, -⟩ := exists_fromCatalog (validateCatalog_valid hcheck) hcheck
  refine ⟨registry, hregistry, fun asset hasset hactive hlength => ?_⟩
  have h := fromCatalog_builtFrom hregistry
  have hslug := validateAsset_slug (h.valid.assets asset hasset)
  simp only [parseQuery_of_slug hslug hlength, Except.ok.injEq, exists_eq_left',
    returnsAsset_iff h hasset]
  by_cases hhyphen : '-' ∈ asset.slug.toList
  · rw [exists_findConfidentAsset_iff h hasset hactive (toAsciiLowercase_spaced hslug)
      (spaced_not_slug hhyphen)]
    simp [hhyphen]
  · rw [spaced_of_no_hyphen hhyphen, findConfidentAsset_of_slug h hasset hactive]
    simp [hhyphen]

/-- ASCII only. -/
def asciiUnicode : Unicode where
  toLowercase := toAsciiLowercase
  isAlphanumeric := Char.isAlphanum
  toLowercase_ascii _ _ := rfl
  isAlphanumeric_ascii _ _ := rfl

/-- The second asset of the catalog has its slug, with a blank, as its name. -/
lemma namesFirst_usdCoin :
    ∃ asset ∈ severalCatalog.assets, asset.slug = "usd-coin" ∧ isActive asset.status = true ∧
      NamesFirst severalCatalog (spaced asset.slug) asset := by
  refine ⟨_, List.mem_cons_of_mem _ (List.mem_singleton_self _), rfl, by decide, .name,
    by decide +kernel, ?_⟩
  intro other hother hactive confidence hconfidence
  rcases List.mem_cons.mp hother with rfl | hother
  · have hnot : namedBy (spaced "usd-coin") (severalCatalog.assets.head (by decide)) = none := by
      decide +kernel
    cases hnot.symm.trans hconfidence
  · obtain rfl := List.mem_singleton.mp hother
    have hname : namedBy (spaced "usd-coin") (severalCatalog.assets.getLast (by decide)) =
        some .name := by
      decide +kernel
    cases hname.symm.trans hconfidence
    exact le_rfl

/-- The slug of an asset without a hyphen, and one that names its asset. -/
theorem resolve_own_slug_iff_several : ∃ registry, fromCatalog severalCatalog = .ok registry ∧
    ∀ slug ∈ ["ethereum", "usd-coin"], ∃ asset ∈ severalCatalog.assets, asset.slug = slug ∧
      ∃ query, parseQuery asciiUnicode (some asset.slug) = .ok query ∧
        ReturnsAsset (resolve registry query) asset := by
  have hcheck : validateCatalog severalCatalog = .ok () := by
    obtain ⟨⟨⟩, hcheck, -⟩ := bind_eq_ok.mp fromCatalog_severalCatalog
    exact lift_eq_ok.mp hcheck
  obtain ⟨registry, hregistry, hassets⟩ := resolve_own_slug_iff asciiUnicode hcheck
  refine ⟨registry, hregistry, fun slug hslug => ?_⟩
  rcases List.mem_cons.mp hslug with rfl | hslug
  · exact ⟨_, List.mem_cons_self, rfl,
      (hassets _ List.mem_cons_self (by decide) (by decide)).mpr (.inl (by decide))⟩
  · obtain rfl := List.mem_singleton.mp hslug
    obtain ⟨asset, hasset, hslug, hactive, hnames⟩ := namesFirst_usdCoin
    exact ⟨asset, hasset, hslug,
      (hassets asset hasset hactive (by rw [hslug]; decide)).mpr (.inr hnames)⟩

/-- One asset with a hyphen in its slug. -/
def agoraCatalog : Catalog where
  version := 3
  assets := [{
    slug := "agora-usd", symbol := "AUSD", name := "AUSD Agora Finance", assetKind := "token"
    category := none, canonicalPath := "/assets/agora-usd", aliases := ["agora-usd", "ausd"]
    metadata := .object, status := "active", sortOrder := 1 }]
  networks := []
  assetChainMaps := []

/-- What the registry of the catalog answers to the slug. -/
def agoraAnswer : Option (Bool × String × String) := do
  let registry ← (fromCatalog agoraCatalog).toOption
  let query ← (parseQuery asciiUnicode (some "agora-usd")).toOption
  let response := resolve registry query
  return (response.resolved, response.query.raw, response.query.normalized)

/-- **A slug with a hyphen** is not known, though the asset has it as an alias as well. -/
theorem agora_usd_not_resolved : agoraAnswer = some (false, "agora-usd", "agora usd") := by
  decide +kernel

end MotherApi.AssetLookup
