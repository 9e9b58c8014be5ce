import MotherApi.PortfolioComposition
import Mathlib.Data.Int.ConditionallyCompleteOrder

/-!
How the contributions of a portfolio are summed up.

Sums are taken on texts, from zero, one text after the other. A sum succeeds exactly if every
text is a decimal, and then it is the one text of the rational sum at the greatest scale, which
is why it does not depend on the order. The resolved contributions are grouped by their asset,
and the groups are again all of them.
-/

namespace MotherApi.PortfolioSummary

open MotherApi.Lib.Fallible MotherApi.Lib.Tables MotherApi.Lib.Groups MotherApi.Strings
open MotherApi.Registry MotherApi.BalanceCommand MotherApi.BalanceResponse MotherApi.BalanceService
open MotherApi.Decimal MotherApi.Portfolio MotherApi.PortfolioComposition

/-! ### Sums of texts -/

/-- The number a text denotes, and zero if it denotes none. -/
def valueOf (text : String) : ℚ := (decimalValue text).getD 0

/-- The greatest scale of the texts. -/
def greatestScale (texts : List String) : ℕ := (texts.map decimalScale).foldr max 0

/-- Every text denotes a number, and the total denotes their sum. -/
def DenotesSum (total : String) (texts : List String) : Prop :=
  (∀ text ∈ texts, (decimalValue text).isSome = true) ∧
    decimalValue total = some (texts.map valueOf).sum

lemma foldlM_add_eq_ok {values : List String} {sum total : String} {q : ℚ} {scale : ℕ}
    (hsum : Denotes sum q scale) :
    values.foldlM addDecimalValue sum = .ok total ↔
      (∀ value ∈ values, (decimalValue value).isSome = true) ∧
        Denotes total (q + (values.map valueOf).sum) (max scale (greatestScale values)) := by
  induction values generalizing sum q scale with
  | nil =>
    simp only [List.foldlM_nil, pure, Except.pure, Except.ok.injEq, List.not_mem_nil,
      false_imp_iff, implies_true, List.map_nil, List.sum_nil, add_zero, greatestScale,
      List.foldr_nil, true_and, Nat.max_zero]
    refine ⟨fun h => h ▸ hsum, fun h => hsum.unique h⟩
  | cons value values ih =>
    obtain ⟨hq, hscale⟩ := hsum.value
    rw [List.foldlM_cons, addDecimalValue]
    rcases addUnsignedDecimals_denotes sum value with
      ⟨l, r, text, hl, hr, htext, hdenotes⟩ | ⟨hnone, error, herror⟩
    · rw [hq, Option.some.injEq] at hl
      subst hl
      rw [hscale] at hdenotes
      rw [htext]
      simp only [pure, Except.pure, bind, Except.bind]
      refine (ih hdenotes).trans ?_
      have hvalue : valueOf value = r := by rw [valueOf, hr, Option.getD_some]
      simp [hr, hvalue, greatestScale, add_assoc, max_assoc]
    · rw [hq] at hnone
      have hnone : decimalValue value = none := hnone.resolve_left (by simp)
      rw [herror]
      simp [hnone, bind, Except.bind, fail]

/-- A sum succeeds exactly if every text is a decimal, with the one text that denotes the sum at
the greatest scale. -/
lemma sumDecimalValues_eq_ok {values : List String} {total : String} :
    sumDecimalValues values = .ok total ↔
      (∀ value ∈ values, (decimalValue value).isSome = true) ∧
        Denotes total (values.map valueOf).sum (greatestScale values) := by
  rw [sumDecimalValues, foldlM_add_eq_ok denotes_zero, zero_add, Nat.zero_max]

lemma sumDecimalValues_denotesSum {values : List String} {total : String}
    (h : sumDecimalValues values = .ok total) : DenotesSum total values := by
  obtain ⟨hall, hdenotes⟩ := sumDecimalValues_eq_ok.mp h
  exact ⟨hall, hdenotes.value.1⟩

lemma greatestScale_perm {values values' : List String} (h : values.Perm values') :
    greatestScale values = greatestScale values' :=
  (h.map decimalScale).foldr_eq 0

lemma sumDecimalValues_perm {values values' : List String} (h : values.Perm values')
    {total : String} (hsum : sumDecimalValues values = .ok total) :
    sumDecimalValues values' = .ok total := by
  rw [sumDecimalValues_eq_ok] at hsum ⊢
  rw [← greatestScale_perm h, ← (h.map valueOf).sum_eq]
  exact ⟨fun value hvalue => hsum.1 value (h.mem_iff.mpr hvalue), hsum.2⟩

lemma DenotesSum.perm {total : String} {texts texts' : List String} (h : DenotesSum total texts)
    (hperm : texts.Perm texts') : DenotesSum total texts' := by
  refine ⟨fun text htext => h.1 text (hperm.mem_iff.mpr htext), ?_⟩
  rw [← (hperm.map valueOf).sum_eq]
  exact h.2

lemma DenotesSum.flatten {total : String} {totals : List String} {parts : List (List String)}
    (h : DenotesSum total totals) (hparts : List.Forall₂ DenotesSum totals parts) :
    DenotesSum total parts.flatten := by
  obtain ⟨-, htotal⟩ := h
  refine ⟨?_, ?_⟩
  · intro text htext
    obtain ⟨part, hpart, htext⟩ := List.mem_flatten.mp htext
    obtain ⟨subtotal, -, hsum⟩ := exists_of_forall₂ hparts.flip hpart
    exact hsum.1 text htext
  · have hvalues : (totals.map valueOf).sum = (parts.flatten.map valueOf).sum := by
      clear htotal
      induction hparts with
      | nil => rfl
      | cons hpart _ ih =>
        rw [List.map_cons, List.sum_cons, List.flatten_cons, List.map_append, List.sum_append, ih,
          valueOf, hpart.2, Option.getD_some]
    rw [htotal, hvalues]

lemma exists_sumDecimalValues {values : List String}
    (h : ∀ value ∈ values, (decimalValue value).isSome = true) :
    ∃ total, sumDecimalValues values = .ok total := by
  suffices hsum : ∀ sum, (decimalValue sum).isSome = true →
      ∃ total, values.foldlM addDecimalValue sum = .ok total by
    exact hsum "0" (by rw [denotes_zero.value.1, Option.isSome_some])
  induction values with
  | nil => exact fun sum _ => ⟨sum, rfl⟩
  | cons value values ih =>
    intro sum hsum
    have hvalue := h value List.mem_cons_self
    rcases addUnsignedDecimals_denotes sum value with
      ⟨l, r, text, -, -, htext, hdenotes⟩ | ⟨hnone, -⟩
    · obtain ⟨total, htotal⟩ := ih
        (fun value hvalue => h value (List.mem_cons_of_mem _ hvalue)) text
        (by rw [hdenotes.value.1, Option.isSome_some])
      refine ⟨total, ?_⟩
      rw [List.foldlM_cons, addDecimalValue, htext]
      exact htotal
    · rcases hnone with hnone | hnone
      · rw [hnone] at hsum
        cases hsum
      · rw [hnone] at hvalue
        cases hvalue

/-! ### One asset -/

/-- The amounts of an asset's contributions add up to this. -/
def TotalAmount (contributions : List PortfolioContribution) (totalAmount : Option String) : Prop :=
  match totalAmount with
  | none => ∃ contribution ∈ contributions, resolvedAmount contribution = none
  | some total => (∀ contribution ∈ contributions, (resolvedAmount contribution).isSome = true) ∧
    sumDecimalValues (contributions.filterMap resolvedAmount) = .ok total

/-- Every contribution has an amount and a value. -/
def FullyValued (contributions : List PortfolioContribution) : Prop :=
  ∀ contribution ∈ contributions, (resolvedAmount contribution).isSome = true ∧
    (availableUsdQuoteValue contribution).isSome = true

instance (contributions : List PortfolioContribution) : Decidable (FullyValued contributions) :=
  inferInstanceAs (Decidable (∀ contribution ∈ contributions, _))

structure AggregateOf (group : String × List PortfolioContribution)
    (asset : AggregatedAssetObservation) : Prop where
  assetSlug : asset.assetSlug = group.1
  contributions : asset.contributions = group.2
  totalAmount : TotalAmount group.2 asset.totalAmount
  knownValue : sumDecimalValues (group.2.filterMap availableUsdQuoteValue) = .ok asset.knownValue
  valuationStatus : asset.valuationStatus = if FullyValued group.2 then .complete else .partially

lemma sumAmounts_eq_ok {contributions : List PortfolioContribution} {totalAmount : Option String} :
    sumAmounts contributions = .ok totalAmount ↔ TotalAmount contributions totalAmount := by
  unfold sumAmounts TotalAmount
  simp only [List.filterMap_length_eq_length]
  split
  · rename_i hall
    rw [map_eq_ok]
    cases totalAmount with
    | none =>
      simp only [reduceCtorEq, and_false, exists_false, false_iff, not_exists, not_and]
      intro contribution hcontribution hnone
      have := hall contribution hcontribution
      rw [hnone] at this
      cases this
    | some total => simpa using fun _ => hall
  · rename_i hsome
    cases totalAmount with
    | none => simpa [pure, Except.pure] using hsome
    | some total => simp [pure, Except.pure, hsome]

lemma aggregateAsset_eq_ok {group : String × List PortfolioContribution}
    {asset : AggregatedAssetObservation} :
    aggregateAsset group = .ok asset ↔ AggregateOf group asset := by
  obtain ⟨assetSlug, contributions⟩ := group
  have hstatus : ∀ totalAmount, TotalAmount contributions totalAmount →
      (totalAmount.isSome = true ∧ (contributions.filterMap availableUsdQuoteValue).length =
        contributions.length ↔ FullyValued contributions) := by
    intro totalAmount htotal
    rw [List.filterMap_length_eq_length]
    have hsome : totalAmount.isSome = true ↔
        ∀ contribution ∈ contributions, (resolvedAmount contribution).isSome = true := by
      cases totalAmount with
      | none =>
        obtain ⟨contribution, hcontribution, hnone⟩ := htotal
        simp only [Option.isSome_none, Bool.false_eq_true, false_iff]
        intro hall
        have := hall contribution hcontribution
        rw [hnone] at this
        cases this
      | some total => simpa using htotal.1
    rw [hsome, FullyValued]
    exact ⟨fun h contribution hc => ⟨h.1 contribution hc, h.2 contribution hc⟩,
      fun h => ⟨fun contribution hc => (h contribution hc).1, fun contribution hc =>
        (h contribution hc).2⟩⟩
  unfold aggregateAsset
  simp only [bind_eq_ok, sumAmounts_eq_ok, pure, Except.pure, Except.ok.injEq]
  constructor
  · rintro ⟨totalAmount, htotal, knownValue, hknown, rfl⟩
    exact ⟨rfl, rfl, htotal, hknown, by simp only [hstatus totalAmount htotal]⟩
  · rintro ⟨rfl, rfl, htotal, hknown, hvaluation⟩
    refine ⟨asset.totalAmount, htotal, asset.knownValue, hknown, ?_⟩
    simp only [hstatus asset.totalAmount htotal, ← hvaluation]

/-! ### All assets -/

/-- A resolved contribution under the slug of its asset. -/
def entryOf (contribution : PortfolioContribution) : Option (String × PortfolioContribution) :=
  if isResolved contribution then
    (contributionAssetSlug contribution).map fun assetSlug => (assetSlug, contribution)
  else none

/-- A resolved contribution names an asset of the registry. -/
def Identified (registry : CanonicalRegistry) (contribution : PortfolioContribution) : Prop :=
  isResolved contribution = true → ∃ assetSlug,
    contributionAssetSlug contribution = some assetSlug ∧
    (registry.assetBySlug assetSlug).isSome = true

lemma canonicalAssetSlug_eq (contribution : PortfolioContribution) :
    canonicalAssetSlug contribution =
      if isResolved contribution then
        match contributionAssetSlug contribution with
        | some assetSlug => .ok (some assetSlug)
        | none => fail .missingCanonicalAssetIdentity
      else .ok none := by
  obtain ⟨_, _, _, _, _, outcome⟩ := contribution
  unfold canonicalAssetSlug isResolved contributionAssetSlug
  cases outcome with
  | commandUnavailable => rfl
  | balance item =>
    cases item with
    | skipped => rfl
    | failed => rfl
    | resolved target =>
      cases h : target.assetSlug <;>
        simp [PortfolioContributionOutcome.isResolved, PortfolioContributionOutcome.assetSlug, h,
          pure, Except.pure]

lemma identify_eq_ok {registry : CanonicalRegistry} {contribution : PortfolioContribution}
    {entry : Option (String × PortfolioContribution)} :
    identify registry contribution = .ok entry ↔
      Identified registry contribution ∧ entry = entryOf contribution := by
  unfold identify entryOf Identified
  rw [canonicalAssetSlug_eq, bind_eq_ok]
  by_cases hresolved : isResolved contribution = true
  · simp only [hresolved, if_true, true_imp_iff]
    cases hslug : contributionAssetSlug contribution with
    | none => simp
    | some assetSlug =>
      cases hasset : registry.assetBySlug assetSlug with
      | none => simp [hasset]
      | some asset =>
        simp only [Except.ok.injEq, exists_eq_left', Option.isNone_some, Bool.false_eq_true,
          if_false, pure, Except.pure, Option.some.injEq, hasset, Option.isSome_some, true_and,
          Option.map_some]
        exact eq_comm
  · simp only [hresolved, Bool.false_eq_true, if_false, Except.ok.injEq, exists_eq_left', pure,
      Except.pure, false_imp_iff, true_and]
    exact eq_comm

/-- The order of an asset slug in a portfolio. -/
def slugOrder (registry : CanonicalRegistry) (assetSlug : String) :
    WithBot (ℤ ×ₗ String ×ₗ String) :=
  (registry.assetBySlug assetSlug).map assetKey

lemma sortAssets_eq_ok {registry : CanonicalRegistry}
    {assets sorted : List AggregatedAssetObservation} :
    sortAssets registry assets = .ok sorted ↔
      (∀ asset ∈ assets, (registry.assetBySlug asset.assetSlug).isSome = true) ∧
        sorted = assets.insertionSort fun left right =>
          slugOrder registry left.assetSlug ≤ slugOrder registry right.assetSlug := by
  have hkey : ∀ asset ∈ assets, ∀ keyed, canonicalAssetOrder registry asset = .ok keyed ↔
      (registry.assetBySlug asset.assetSlug).isSome = true ∧
        keyed = (((registry.assetBySlug asset.assetSlug).map assetKey).getD
          (toLex (0, toLex ("", ""))), asset) := by
    intro asset _ keyed
    unfold canonicalAssetOrder
    rw [bind_eq_ok]
    cases hasset : registry.assetBySlug asset.assetSlug with
    | none => simp [expect]
    | some canonical =>
      simp only [expect_eq_ok, Option.some.injEq, exists_eq_left', pure, Except.pure,
        Except.ok.injEq, Option.isSome_some, Option.map_some, Option.getD_some, true_and]
      exact eq_comm
  unfold sortAssets
  simp only [bind_eq_ok, mapM_eq_ok_map hkey, pure, Except.pure, Except.ok.injEq]
  -- sorting by the keys is sorting by the order of the slugs
  have hsort : (∀ asset ∈ assets, (registry.assetBySlug asset.assetSlug).isSome = true) →
      ((assets.map fun asset => (((registry.assetBySlug asset.assetSlug).map assetKey).getD
          (toLex (0, toLex ("", ""))), asset)).insertionSort fun left right =>
            left.1 ≤ right.1).map Prod.snd =
        assets.insertionSort fun left right =>
          slugOrder registry left.assetSlug ≤ slugOrder registry right.assetSlug := by
    intro hall
    refine (List.map_insertionSort _ (fun left right : AggregatedAssetObservation =>
      slugOrder registry left.assetSlug ≤ slugOrder registry right.assetSlug) _ _ ?_).trans ?_
    swap
    · simp [Function.comp_def]
    · intro left hleft right hright
      obtain ⟨left, hleft', rfl⟩ := List.mem_map.mp hleft
      obtain ⟨right, hright', rfl⟩ := List.mem_map.mp hright
      obtain ⟨l, hl⟩ := Option.isSome_iff_exists.mp (hall left hleft')
      obtain ⟨r, hr⟩ := Option.isSome_iff_exists.mp (hall right hright')
      simp only [slugOrder, hl, hr, Option.map_some, Option.getD_some]
      exact WithBot.coe_le_coe.symm
  constructor
  · rintro ⟨_, ⟨hall, rfl⟩, rfl⟩
    exact ⟨hall, hsort hall⟩
  · rintro ⟨hall, rfl⟩
    exact ⟨_, ⟨hall, rfl⟩, hsort hall⟩

/-- The resolved contributions under their assets. -/
def byAsset (contributions : List PortfolioContribution) :
    List (String × List PortfolioContribution) :=
  contributionsByAsset (contributions.filterMap entryOf)

def sortedAssets (registry : CanonicalRegistry) (assets : List AggregatedAssetObservation) :
    List AggregatedAssetObservation :=
  assets.insertionSort fun left right =>
    slugOrder registry left.assetSlug ≤ slugOrder registry right.assetSlug

lemma mem_filterMap_entryOf {contributions : List PortfolioContribution} {assetSlug : String}
    {contribution : PortfolioContribution} :
    (assetSlug, contribution) ∈ contributions.filterMap entryOf ↔
      contribution ∈ contributions ∧ isResolved contribution = true ∧
        contributionAssetSlug contribution = some assetSlug := by
  simp only [List.mem_filterMap, entryOf]
  constructor
  · rintro ⟨other, hother, heq⟩
    split at heq
    · rename_i hresolved
      obtain ⟨slug, hslug, heq⟩ := Option.map_eq_some_iff.mp heq
      cases heq
      exact ⟨hother, hresolved, hslug⟩
    · cases heq
  · rintro ⟨hmem, hresolved, hslug⟩
    exact ⟨contribution, hmem, by simp [hresolved, hslug]⟩

/-- The resolved contributions of an asset, in their order. -/
lemma mem_byAsset {contributions : List PortfolioContribution}
    {group : String × List PortfolioContribution} (h : group ∈ byAsset contributions) :
    (∃ contribution ∈ contributions, isResolved contribution = true ∧
        contributionAssetSlug contribution = some group.1) ∧
      group.2 = contributions.filter fun contribution =>
        isResolved contribution && contributionAssetSlug contribution == some group.1 := by
  obtain ⟨⟨assetSlug, entries⟩, hgroup, rfl⟩ := List.mem_map.mp h
  obtain ⟨hkey, hentries⟩ := mem_groups _ hgroup
  simp only at hkey hentries ⊢
  obtain ⟨⟨slug, contribution⟩, hmem, hslug⟩ := (mem_keys _).mp hkey
  simp only at hslug
  subst hslug
  refine ⟨⟨contribution, mem_filterMap_entryOf.mp hmem⟩, ?_⟩
  rw [hentries]
  clear h hgroup hkey hentries hmem
  induction contributions with
  | nil => rfl
  | cons first contributions ih =>
    rw [List.filterMap_cons, List.filter_cons]
    by_cases hresolved : isResolved first = true
    · cases hfirst : contributionAssetSlug first with
      | none =>
        have hentry : entryOf first = none := by simp [entryOf, hfirst]
        simpa [hentry, hresolved] using ih
      | some other =>
        have hentry : entryOf first = some (other, first) := by simp [entryOf, hresolved, hfirst]
        by_cases hsame : other = slug
        · simpa [hentry, hresolved, hsame] using ih
        · simpa [hentry, hresolved, hsame] using ih
    · have hentry : entryOf first = none := by simp [entryOf, hresolved]
      simpa [hentry, hresolved] using ih

lemma nodup_byAsset (contributions : List PortfolioContribution) :
    ((byAsset contributions).map Prod.fst).Nodup := by
  rw [byAsset, contributionsByAsset, List.map_map]
  exact map_fst_groups Prod.fst (contributions.filterMap entryOf) ▸ nodup_keys _ _

/-- The groups of the assets have every resolved contribution once. -/
lemma flatMap_byAsset {registry : CanonicalRegistry} {contributions : List PortfolioContribution}
    (h : ∀ contribution ∈ contributions, Identified registry contribution) :
    ((byAsset contributions).flatMap Prod.snd).Perm (contributions.filter isResolved) := by
  have hgroups := (flatMap_groups_perm (f := Prod.fst) (contributions.filterMap entryOf)).map
    Prod.snd
  have hflat : (byAsset contributions).flatMap Prod.snd =
      ((groups Prod.fst (contributions.filterMap entryOf)).flatMap Prod.snd).map Prod.snd := by
    rw [byAsset, contributionsByAsset, List.flatMap_map, List.map_flatMap]
  rw [hflat]
  refine hgroups.trans ?_
  rw [List.map_filterMap]
  refine List.Perm.of_eq ?_
  rw [← List.filterMap_eq_filter]
  refine List.filterMap_congr fun contribution hcontribution => ?_
  unfold entryOf
  by_cases hresolved : isResolved contribution = true
  · obtain ⟨assetSlug, hslug, -⟩ := h contribution hcontribution hresolved
    simp [hresolved, hslug, Option.guard]
  · simp [hresolved, Option.guard]

/-- Summarizing succeeds exactly if every resolved contribution names an asset of the registry
and every sum has a result. -/
lemma summarize_eq_ok {registry : CanonicalRegistry} {state : Observing}
    {portfolio : CurrentWorkspacePortfolio} :
    summarize registry state = .ok portfolio ↔
      (∀ contribution ∈ state.allContributions, Identified registry contribution) ∧
        ∃ assets, List.Forall₂ AggregateOf (byAsset state.allContributions) assets ∧
          ∃ knownValue,
            sumDecimalValues ((sortedAssets registry assets).map (·.knownValue)) = .ok knownValue ∧
            portfolio = ⟨PORTFOLIO_QUOTE_CURRENCY, state.memberObservations,
              sortedAssets registry assets, knownValue, valuationStatus state.memberObservations
                state.allContributions (sortedAssets registry assets)⟩ := by
  unfold summarize
  simp only [bind_eq_ok, mapM_eq_ok_map (fun contribution _ _ => identify_eq_ok), sortAssets_eq_ok,
    mapM_eq_ok, aggregateAsset_eq_ok, pure, Except.pure, Except.ok.injEq]
  have hentries : (state.allContributions.map entryOf).reduceOption =
      state.allContributions.filterMap entryOf := by
    calc (state.allContributions.map entryOf).reduceOption =
          (state.allContributions.map entryOf).filterMap id := rfl
      _ = state.allContributions.filterMap entryOf := List.filterMap_map
  constructor
  · rintro ⟨_, ⟨hidentified, rfl⟩, assets, hassets, _, ⟨-, rfl⟩, knownValue, hknown, rfl⟩
    rw [hentries] at hassets
    exact ⟨hidentified, assets, hassets, knownValue, hknown, rfl⟩
  · rintro ⟨hidentified, assets, hassets, knownValue, hknown, rfl⟩
    refine ⟨_, ⟨hidentified, rfl⟩, assets, by rw [hentries]; exact hassets, _, ⟨?_, rfl⟩,
      knownValue, hknown, rfl⟩
    intro asset hasset
    obtain ⟨group, hgroup, haggregate⟩ := exists_of_forall₂ hassets.flip hasset
    obtain ⟨contribution, hcontribution, hresolved, hslug⟩ := (mem_byAsset hgroup).1
    obtain ⟨assetSlug, hslug', hcanonical⟩ := hidentified contribution hcontribution hresolved
    rw [hslug, Option.some.injEq] at hslug'
    rw [haggregate.assetSlug, hslug']
    exact hcanonical

/-- A contribution whose texts are decimals. -/
def Decimals (contribution : PortfolioContribution) : Prop :=
  (∀ amount, resolvedAmount contribution = some amount → (decimalValue amount).isSome = true) ∧
    ∀ value, availableUsdQuoteValue contribution = some value → (decimalValue value).isSome = true

lemma exists_aggregateAsset {group : String × List PortfolioContribution}
    (h : ∀ contribution ∈ group.2, Decimals contribution) :
    ∃ asset, aggregateAsset group = .ok asset := by
  obtain ⟨knownValue, hknown⟩ : ∃ total,
      sumDecimalValues (group.2.filterMap availableUsdQuoteValue) = .ok total := by
    refine exists_sumDecimalValues fun value hvalue => ?_
    obtain ⟨contribution, hcontribution, hvalue⟩ := List.mem_filterMap.mp hvalue
    exact (h contribution hcontribution).2 value hvalue
  obtain ⟨totalAmount, htotal⟩ : ∃ totalAmount, sumAmounts group.2 = .ok totalAmount := by
    obtain ⟨total, htotal⟩ : ∃ total,
        sumDecimalValues (group.2.filterMap resolvedAmount) = .ok total := by
      refine exists_sumDecimalValues fun amount hamount => ?_
      obtain ⟨contribution, hcontribution, hamount⟩ := List.mem_filterMap.mp hamount
      exact (h contribution hcontribution).1 amount hamount
    unfold sumAmounts
    simp only [htotal]
    split
    · exact ⟨some total, rfl⟩
    · exact ⟨none, rfl⟩
  obtain ⟨assetSlug, contributions⟩ := group
  simp only [aggregateAsset, htotal, hknown, bind, Except.bind]
  exact ⟨_, rfl⟩

/-- Contributions that name their assets and whose texts are decimals have a summary. -/
lemma exists_summarize {registry : CanonicalRegistry} {state : Observing}
    (hidentified : ∀ contribution ∈ state.allContributions, Identified registry contribution)
    (hdecimals : ∀ contribution ∈ state.allContributions, Decimals contribution) :
    ∃ portfolio, summarize registry state = .ok portfolio := by
  obtain ⟨assets, hassets⟩ : ∃ assets,
      (byAsset state.allContributions).mapM aggregateAsset = .ok assets := by
    refine exists_mapM_eq_ok fun group hgroup => exists_aggregateAsset fun contribution hmem => ?_
    rw [(mem_byAsset hgroup).2] at hmem
    exact hdecimals contribution (List.mem_filter.mp hmem).1
  have hassets : List.Forall₂ AggregateOf (byAsset state.allContributions) assets :=
    (mapM_eq_ok.mp hassets).imp fun _ _ => aggregateAsset_eq_ok.mp
  obtain ⟨knownValue, hknown⟩ : ∃ total,
      sumDecimalValues ((sortedAssets registry assets).map (·.knownValue)) = .ok total := by
    refine exists_sumDecimalValues fun value hvalue => ?_
    obtain ⟨asset, hasset, rfl⟩ := List.mem_map.mp hvalue
    have hasset := (List.perm_insertionSort _ assets).mem_iff.mp hasset
    obtain ⟨group, -, haggregate⟩ := exists_of_forall₂ hassets.flip hasset
    rw [(sumDecimalValues_denotesSum haggregate.knownValue).2, Option.isSome_some]
  exact ⟨_, summarize_eq_ok.mpr ⟨hidentified, assets, hassets, knownValue, hknown, rfl⟩⟩

end MotherApi.PortfolioSummary
