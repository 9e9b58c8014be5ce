import MotherApi.PortfolioSummary

/-!
What the totals and the statuses of a portfolio say.

A composed portfolio is held against its own contributions: its values are their rational sums,
and its statuses say of how many of them they speak. None of it depends on the order in which
members or commands come.
-/

namespace MotherApi.PortfolioTotals

open MotherApi.Lib.Fallible MotherApi.Lib.Tables MotherApi.Lib.Groups MotherApi.Strings
open MotherApi.Registry MotherApi.BalanceCommand MotherApi.BalanceResponse MotherApi.BalanceService
open MotherApi.BalanceTargets MotherApi.Decimal MotherApi.Portfolio MotherApi.PortfolioComposition
open MotherApi.PortfolioSummary

/-- Every contribution of every member. -/
def contributions (portfolio : CurrentWorkspacePortfolio) : List PortfolioContribution :=
  portfolio.members.flatMap (·.contributions)

/-- The resolved contributions of an asset. -/
def contributionsTo (portfolio : CurrentWorkspacePortfolio) (assetSlug : String) :
    List PortfolioContribution :=
  (contributions portfolio).filter fun contribution =>
    isResolved contribution && contributionAssetSlug contribution == some assetSlug

/-- Resolved, with an amount and a value in dollars. -/
def isValued (contribution : PortfolioContribution) : Bool :=
  isResolved contribution && (resolvedAmount contribution).isSome
    && (availableUsdQuoteValue contribution).isSome

/-- A status is complete if all of the contributions are good, unavailable if there are some
and none is resolved, and partial otherwise. -/
structure Status (status : PortfolioObservationStatus) (contributions : List PortfolioContribution)
    (good : PortfolioContribution → Bool) : Prop where
  complete : status = .complete ↔ ∀ contribution ∈ contributions, good contribution = true
  unavailable : status = .unavailable ↔
    contributions ≠ [] ∧ ∀ contribution ∈ contributions, isResolved contribution = false
  partially : status = .partially ↔ (∃ contribution ∈ contributions, good contribution = false) ∧
    ∃ contribution ∈ contributions, isResolved contribution = true

/-- The totals and the statuses are true of the contributions. -/
structure Truthful (portfolio : CurrentWorkspacePortfolio) : Prop where
  knownValue : DenotesSum portfolio.knownValue
    ((contributions portfolio).filterMap availableUsdQuoteValue)
  assetContributions : ∀ asset ∈ portfolio.assets,
    asset.contributions = contributionsTo portfolio asset.assetSlug
  assetKnownValue : ∀ asset ∈ portfolio.assets, DenotesSum asset.knownValue
    ((contributionsTo portfolio asset.assetSlug).filterMap availableUsdQuoteValue)
  noTotalAmount : ∀ asset ∈ portfolio.assets, asset.totalAmount = none ↔
    ∃ contribution ∈ asset.contributions, resolvedAmount contribution = none
  totalAmount : ∀ asset ∈ portfolio.assets, ∀ total, asset.totalAmount = some total →
    DenotesSum total (asset.contributions.filterMap resolvedAmount)
  valuationStatus : Status portfolio.valuationStatus (contributions portfolio) isValued
  observationStatus : ∀ observation ∈ portfolio.members,
    Status observation.observationStatus observation.contributions isResolved

/-- The figures of an asset. -/
def figures (asset : AggregatedAssetObservation) :
    String × Option String × String × PortfolioObservationStatus :=
  (asset.assetSlug, asset.totalAmount, asset.knownValue, asset.valuationStatus)

/-- Two portfolios with the same totals and statuses. -/
structure SameFigures (portfolio portfolio' : CurrentWorkspacePortfolio) : Prop where
  knownValue : portfolio'.knownValue = portfolio.knownValue
  valuationStatus : portfolio'.valuationStatus = portfolio.valuationStatus
  assets : portfolio'.assets.map figures = portfolio.assets.map figures
  members : (portfolio'.members.map fun observation =>
      (observation.member, observation.observationStatus)) =
    portfolio.members.map fun observation => (observation.member, observation.observationStatus)

/-! ### Statuses -/

section

variable {contributions : List PortfolioContribution} {good : PortfolioContribution → Bool}

lemma status_complete (hgood : ∀ contribution ∈ contributions, good contribution = true)
    (hresolved : ∀ contribution, good contribution = true → isResolved contribution = true) :
    Status .complete contributions good := by
  refine ⟨by simpa using hgood, ?_, ?_⟩
  · simp only [reduceCtorEq, false_iff, not_and]
    intro hne hnone
    obtain ⟨first, hfirst⟩ := List.exists_mem_of_ne_nil _ hne
    simpa [hnone first hfirst] using hresolved first (hgood first hfirst)
  · simp only [reduceCtorEq, false_iff, not_and]
    rintro ⟨contribution, hcontribution, hbad⟩
    rw [hgood contribution hcontribution] at hbad
    cases hbad

lemma status_unavailable (hne : contributions ≠ [])
    (hnone : ∀ contribution ∈ contributions, isResolved contribution = false)
    (hresolved : ∀ contribution, good contribution = true → isResolved contribution = true) :
    Status .unavailable contributions good := by
  refine ⟨?_, by simpa using ⟨hne, hnone⟩, ?_⟩
  · obtain ⟨first, hfirst⟩ := List.exists_mem_of_ne_nil _ hne
    simp only [reduceCtorEq, false_iff]
    intro hgood
    simpa [hnone first hfirst] using hresolved first (hgood first hfirst)
  · simp only [reduceCtorEq, false_iff, not_and, not_exists]
    intro _ contribution hcontribution
    simp [hnone contribution hcontribution]

lemma status_partially (hbad : ∃ contribution ∈ contributions, good contribution = false)
    (hsome : ∃ contribution ∈ contributions, isResolved contribution = true) :
    Status .partially contributions good := by
  refine ⟨?_, ?_, by simpa using ⟨hbad, hsome⟩⟩
  · simp only [reduceCtorEq, false_iff]
    obtain ⟨contribution, hcontribution, hbad⟩ := hbad
    intro hgood
    rw [hgood contribution hcontribution] at hbad
    cases hbad
  · simp only [reduceCtorEq, false_iff, not_and]
    obtain ⟨contribution, hcontribution, hresolved⟩ := hsome
    intro _ hnone
    rw [hnone contribution hcontribution] at hresolved
    cases hresolved

end

lemma balanceStatus_status (contributions : List PortfolioContribution) :
    Status (balanceStatus contributions) contributions isResolved := by
  have hnone : contributions.countP isResolved = 0 ↔
      ∀ contribution ∈ contributions, isResolved contribution = false := by
    simp [List.countP_eq_zero]
  have hall : contributions.countP isResolved = contributions.length ↔
      ∀ contribution ∈ contributions, isResolved contribution = true := List.countP_eq_length
  unfold balanceStatus
  simp only [List.isEmpty_iff, hnone, hall]
  split
  · rename_i hempty
    subst hempty
    exact status_complete (by simp) fun _ h => h
  · rename_i hne
    split
    · rename_i hno
      exact status_unavailable hne hno fun _ h => h
    · rename_i hsome
      split
      · rename_i hevery
        exact status_complete hevery fun _ h => h
      · rename_i hnot
        refine status_partially ?_ ?_
        · simpa only [not_forall, Bool.not_eq_true, exists_prop] using hnot
        · simpa only [not_forall, Bool.not_eq_false, exists_prop] using hsome

lemma balanceStatus_perm {contributions contributions' : List PortfolioContribution}
    (h : contributions.Perm contributions') :
    balanceStatus contributions = balanceStatus contributions' := by
  unfold balanceStatus
  simp only [h.countP_eq, h.length_eq, h.isEmpty_eq]

lemma isValued_eq_true {contribution : PortfolioContribution} :
    isValued contribution = true ↔ isResolved contribution = true ∧
      (resolvedAmount contribution).isSome = true ∧
        (availableUsdQuoteValue contribution).isSome = true := by
  simp [isValued, and_assoc]

lemma isResolved_of_availableUsdQuoteValue {contribution : PortfolioContribution} {value : String}
    (h : availableUsdQuoteValue contribution = some value) : isResolved contribution = true := by
  unfold availableUsdQuoteValue at h
  split at h
  · rename_i heq
    simp [isResolved, PortfolioContributionOutcome.isResolved, heq]
  · cases h

lemma filterMap_availableUsdQuoteValue_filter (contributions : List PortfolioContribution) :
    (contributions.filter isResolved).filterMap availableUsdQuoteValue =
      contributions.filterMap availableUsdQuoteValue := by
  rw [List.filterMap_filter]
  refine List.filterMap_congr fun contribution _ => ?_
  by_cases hresolved : isResolved contribution = true
  · simp [hresolved]
  · have hnone : availableUsdQuoteValue contribution = none :=
      Option.eq_none_iff_forall_ne_some.mpr fun value hvalue =>
        hresolved (isResolved_of_availableUsdQuoteValue hvalue)
    simp [hresolved, hnone]

/-! ### A summary is truthful -/

section

variable {registry : CanonicalRegistry} {allContributions : List PortfolioContribution}
  {assets : List AggregatedAssetObservation}

lemma perm_sortedAssets : (sortedAssets registry assets).Perm assets :=
  List.perm_insertionSort _ _

lemma knownValue_denotesSum {knownValue : String}
    (hidentified : ∀ contribution ∈ allContributions, Identified registry contribution)
    (hassets : List.Forall₂ AggregateOf (byAsset allContributions) assets)
    (hknown : sumDecimalValues ((sortedAssets registry assets).map (·.knownValue)) =
      .ok knownValue) :
    DenotesSum knownValue (allContributions.filterMap availableUsdQuoteValue) := by
  have hsum : DenotesSum knownValue (assets.map (·.knownValue)) :=
    (sumDecimalValues_denotesSum hknown).perm (perm_sortedAssets.map _)
  have hparts : List.Forall₂ DenotesSum (assets.map (·.knownValue))
      ((byAsset allContributions).map fun group => group.2.filterMap availableUsdQuoteValue) := by
    rw [List.forall₂_map_left_iff, List.forall₂_map_right_iff]
    exact hassets.flip.imp fun asset group haggregate =>
      sumDecimalValues_denotesSum haggregate.knownValue
  have hflat : ((byAsset allContributions).map fun group =>
        group.2.filterMap availableUsdQuoteValue).flatten =
      ((byAsset allContributions).flatMap Prod.snd).filterMap availableUsdQuoteValue := by
    rw [List.filterMap_flatMap, List.flatMap_def]
  have hall := hsum.flatten hparts
  rw [hflat] at hall
  refine hall.perm ?_
  rw [← filterMap_availableUsdQuoteValue_filter allContributions]
  exact (flatMap_byAsset hidentified).filterMap _

lemma assets_complete_iff
    (hidentified : ∀ contribution ∈ allContributions, Identified registry contribution)
    (hassets : List.Forall₂ AggregateOf (byAsset allContributions) assets) :
    (∀ asset ∈ sortedAssets registry assets, asset.valuationStatus = .complete) ↔
      ∀ contribution ∈ allContributions, isResolved contribution = true →
        isValued contribution = true := by
  have hmem : ∀ contribution ∈ allContributions, isResolved contribution = true →
      ∃ group ∈ byAsset allContributions, contribution ∈ group.2 := by
    intro contribution hcontribution hresolved
    have := (flatMap_byAsset hidentified).mem_iff.mpr
      (List.mem_filter.mpr ⟨hcontribution, hresolved⟩)
    exact List.mem_flatMap.mp this
  constructor
  · intro hcomplete contribution hcontribution hresolved
    obtain ⟨group, hgroup, hin⟩ := hmem contribution hcontribution hresolved
    obtain ⟨asset, hasset, haggregate⟩ := exists_of_forall₂ hassets hgroup
    have hstatus := hcomplete asset (perm_sortedAssets.mem_iff.mpr hasset)
    rw [haggregate.valuationStatus] at hstatus
    split at hstatus
    · rename_i hvalued
      exact isValued_eq_true.mpr ⟨hresolved, hvalued contribution hin⟩
    · cases hstatus
  · intro hvalued asset hasset
    obtain ⟨group, hgroup, haggregate⟩ :=
      exists_of_forall₂ hassets.flip (perm_sortedAssets.mem_iff.mp hasset)
    rw [haggregate.valuationStatus, if_pos]
    intro contribution hin
    rw [(mem_byAsset hgroup).2] at hin
    obtain ⟨hcontribution, hresolved⟩ := List.mem_filter.mp hin
    simp only [Bool.and_eq_true] at hresolved
    exact (isValued_eq_true.mp (hvalued contribution hcontribution hresolved.1)).2

/-- Behind a status that is partial there is a contribution without a value. -/
lemma exists_not_isValued
    (hidentified : ∀ contribution ∈ allContributions, Identified registry contribution)
    (hassets : List.Forall₂ AggregateOf (byAsset allContributions) assets)
    (hpart : balanceStatus allContributions = .partially ∨
      ∃ asset ∈ sortedAssets registry assets, asset.valuationStatus ≠ .complete) :
    ∃ contribution ∈ allContributions, isValued contribution = false := by
  rcases hpart with hpart | ⟨asset, hasset, hpart⟩
  · obtain ⟨⟨contribution, hmem, hbad⟩, -⟩ :=
      (balanceStatus_status allContributions).partially.mp hpart
    exact ⟨contribution, hmem, by simp [isValued, hbad]⟩
  · by_contra hall
    simp only [not_exists, not_and, Bool.not_eq_false] at hall
    exact hpart ((assets_complete_iff hidentified hassets).mpr
      (fun contribution hmem _ => hall contribution hmem) asset hasset)

/-- The status of the whole, from the statuses of the contributions and of the assets. -/
lemma valuationStatus_status {observations : List MemberPortfolioObservation}
    (hall : observations.flatMap (·.contributions) = allContributions)
    (hidentified : ∀ contribution ∈ allContributions, Identified registry contribution)
    (hassets : List.Forall₂ AggregateOf (byAsset allContributions) assets) :
    Status (valuationStatus observations allContributions (sortedAssets registry assets))
      allContributions isValued := by
  have hbalance := balanceStatus_status allContributions
  have hcomplete := assets_complete_iff hidentified hassets
  have hresolved : ∀ contribution, isValued contribution = true → isResolved contribution = true :=
    fun contribution h => (isValued_eq_true.mp h).1
  unfold valuationStatus
  split
  · rename_i hempty
    rw [List.isEmpty_iff] at hempty
    subst hempty
    subst hall
    exact status_complete (by simp) hresolved
  · split
    · rename_i hunavailable
      obtain ⟨hne, hnone⟩ := hbalance.unavailable.mp hunavailable
      exact status_unavailable hne hnone hresolved
    · rename_i hsome
      have hgood : ∀ contribution ∈ allContributions,
          ∃ other ∈ allContributions, isResolved other = true := by
        intro contribution hmem
        rw [hbalance.unavailable] at hsome
        simpa [List.ne_nil_of_mem hmem] using hsome
      split
      · rename_i hpart
        obtain ⟨contribution, hmem, hbad⟩ := exists_not_isValued hidentified hassets hpart
        exact status_partially ⟨contribution, hmem, hbad⟩ (hgood contribution hmem)
      · rename_i hfull
        simp only [not_or, not_exists, not_and, not_not] at hfull
        obtain ⟨hbalanced, hvalued⟩ := hfull
        refine status_complete (fun contribution hmem => hcomplete.mp hvalued contribution hmem ?_)
          hresolved
        -- with one that is not resolved the balances would be partial
        by_contra hbad
        rw [Bool.not_eq_true] at hbad
        exact hbalanced (hbalance.partially.mpr
          ⟨⟨contribution, hmem, hbad⟩, hgood contribution hmem⟩)

end

/-- A summary of the members' contributions is truthful. -/
lemma summarize_truthful {registry : CanonicalRegistry} {state : Observing}
    {portfolio : CurrentWorkspacePortfolio} (h : summarize registry state = .ok portfolio)
    (hall : state.memberObservations.flatMap (·.contributions) = state.allContributions)
    (hstatus : ∀ observation ∈ state.memberObservations,
      observation.observationStatus = balanceStatus observation.contributions) :
    Truthful portfolio := by
  obtain ⟨hidentified, assets, hassets, knownValue, hknown, rfl⟩ := summarize_eq_ok.mp h
  -- an asset of the portfolio is the aggregate of its group
  have hgroup : ∀ asset ∈ sortedAssets registry assets,
      ∃ group ∈ byAsset state.allContributions, AggregateOf group asset :=
    fun asset hasset => exists_of_forall₂ hassets.flip (perm_sortedAssets.mem_iff.mp hasset)
  have hcontributions : ∀ asset ∈ sortedAssets registry assets, asset.contributions =
      state.allContributions.filter fun contribution =>
        isResolved contribution && contributionAssetSlug contribution == some asset.assetSlug := by
    intro asset hasset
    obtain ⟨group, hmem, haggregate⟩ := hgroup asset hasset
    rw [haggregate.contributions, haggregate.assetSlug, (mem_byAsset hmem).2]
  constructor
  all_goals simp only [contributionsTo, contributions, hall]
  case knownValue => exact knownValue_denotesSum hidentified hassets hknown
  case assetContributions => exact hcontributions
  case assetKnownValue =>
    intro asset hasset
    obtain ⟨group, -, haggregate⟩ := hgroup asset hasset
    rw [← hcontributions asset hasset, haggregate.contributions]
    exact sumDecimalValues_denotesSum haggregate.knownValue
  case noTotalAmount =>
    intro asset hasset
    obtain ⟨group, -, haggregate⟩ := hgroup asset hasset
    have htotal := haggregate.totalAmount
    rw [haggregate.contributions]
    cases hamount : asset.totalAmount with
    | none =>
      rw [hamount] at htotal
      exact ⟨fun _ => htotal, fun _ => rfl⟩
    | some total =>
      rw [hamount] at htotal
      simp only [reduceCtorEq, false_iff, not_exists, not_and]
      intro contribution hcontribution hnone
      have := htotal.1 contribution hcontribution
      rw [hnone] at this
      cases this
  case totalAmount =>
    intro asset hasset total hamount
    obtain ⟨group, -, haggregate⟩ := hgroup asset hasset
    have htotal := haggregate.totalAmount
    rw [hamount] at htotal
    rw [haggregate.contributions]
    exact sumDecimalValues_denotesSum htotal.2
  case valuationStatus => exact valuationStatus_status hall hidentified hassets
  case observationStatus =>
    intro observation hobservation
    rw [hstatus observation hobservation]
    exact balanceStatus_status _

/-! ### The order does not matter -/

lemma totalAmount_perm {group group' : List PortfolioContribution} (h : group.Perm group')
    {totalAmount : Option String} (htotal : TotalAmount group totalAmount) :
    TotalAmount group' totalAmount := by
  cases totalAmount with
  | none =>
    obtain ⟨contribution, hcontribution, hnone⟩ := htotal
    exact ⟨contribution, h.mem_iff.mp hcontribution, hnone⟩
  | some total =>
    obtain ⟨hsome, hsum⟩ := htotal
    exact ⟨fun contribution hcontribution => hsome contribution (h.mem_iff.mpr hcontribution),
      sumDecimalValues_perm (h.filterMap _) hsum⟩

lemma aggregateOf_perm {group group' : String × List PortfolioContribution}
    (hslug : group.1 = group'.1) (hperm : group.2.Perm group'.2)
    {asset : AggregatedAssetObservation} (h : AggregateOf group asset) :
    AggregateOf group' { asset with contributions := group'.2 } := by
  refine ⟨h.assetSlug.trans hslug, rfl, totalAmount_perm hperm h.totalAmount,
    sumDecimalValues_perm (hperm.filterMap _) h.knownValue, ?_⟩
  have hvalued : FullyValued group.2 ↔ FullyValued group'.2 :=
    forall_congr' fun contribution => by rw [hperm.mem_iff]
  rw [h.valuationStatus]
  simp only [hvalued]

lemma byAsset_perm {all all' : List PortfolioContribution} (h : all.Perm all') :
    List.Forall₂ (fun group group' => group.1 = group'.1 ∧ group.2.Perm group'.2)
      (byAsset all) (byAsset all') := by
  rw [byAsset, byAsset, contributionsByAsset, contributionsByAsset, List.forall₂_map_left_iff,
    List.forall₂_map_right_iff]
  exact (groups_perm (h.filterMap entryOf)).imp fun group group' hgroup =>
    ⟨hgroup.1, hgroup.2.map _⟩

/-- The aggregates of permuted contributions, with the same figures one by one. -/
lemma exists_aggregates_perm {groups groups' : List (String × List PortfolioContribution)}
    {assets : List AggregatedAssetObservation}
    (hgroups : List.Forall₂ (fun group group' => group.1 = group'.1 ∧ group.2.Perm group'.2)
      groups groups') (h : List.Forall₂ AggregateOf groups assets) :
    ∃ assets', List.Forall₂ AggregateOf groups' assets' ∧
      assets'.map figures = assets.map figures := by
  induction hgroups generalizing assets with
  | nil =>
    cases h
    exact ⟨[], .nil, rfl⟩
  | @cons group group' _ _ hgroup _ ih =>
    cases h with
    | @cons _ asset _ assets haggregate hrest =>
      obtain ⟨assets', hassets', hfigures⟩ := ih hrest
      refine ⟨{ asset with contributions := group'.2 } :: assets',
        .cons (aggregateOf_perm hgroup.1 hgroup.2 haggregate) hassets', ?_⟩
      rw [List.map_cons, List.map_cons, hfigures]
      rfl

lemma map_figures_sortedAssets (registry : CanonicalRegistry)
    (assets : List AggregatedAssetObservation) :
    (sortedAssets registry assets).map figures =
      (assets.map figures).insertionSort fun left right =>
        slugOrder registry left.1 ≤ slugOrder registry right.1 :=
  List.map_insertionSort _ _ _ _ fun _ _ _ _ => Iff.rfl

lemma exists_asset_iff {assets assets' : List AggregatedAssetObservation}
    (h : assets'.map figures = assets.map figures) :
    (∃ asset ∈ assets', asset.valuationStatus ≠ .complete) ↔
      ∃ asset ∈ assets, asset.valuationStatus ≠ .complete := by
  have hfigures : ∀ list : List AggregatedAssetObservation,
      (∃ asset ∈ list, asset.valuationStatus ≠ .complete) ↔
        ∃ figure ∈ list.map figures, figure.2.2.2 ≠ .complete := by
    intro list
    simp [figures]
  rw [hfigures, hfigures, h]

/-- Permuted contributions have a summary with the same figures. -/
lemma summarize_perm {registry : CanonicalRegistry} {state : Observing}
    {portfolio : CurrentWorkspacePortfolio} (h : summarize registry state = .ok portfolio)
    (state' : Observing)
    (hperm : state.allContributions.Perm state'.allContributions)
    (hmembers : (state'.memberObservations.map fun observation =>
        (observation.member, observation.observationStatus)) =
      state.memberObservations.map fun observation =>
        (observation.member, observation.observationStatus)) :
    ∃ portfolio', summarize registry state' = .ok portfolio' ∧
      SameFigures portfolio portfolio' := by
  obtain ⟨hidentified, assets, hassets, knownValue, hknown, rfl⟩ := summarize_eq_ok.mp h
  obtain ⟨assets', hassets', hfigures⟩ := exists_aggregates_perm (byAsset_perm hperm) hassets
  have hsorted : (sortedAssets registry assets').map figures =
      (sortedAssets registry assets).map figures := by
    rw [map_figures_sortedAssets, map_figures_sortedAssets, hfigures]
  have hvalues : (sortedAssets registry assets').map (·.knownValue) =
      (sortedAssets registry assets).map (·.knownValue) := by
    have := congrArg (List.map fun figure => figure.2.2.1) hsorted
    rw [List.map_map, List.map_map] at this
    exact this
  refine ⟨_, summarize_eq_ok.mpr ⟨fun contribution hcontribution =>
    hidentified contribution (hperm.mem_iff.mpr hcontribution), assets', hassets', knownValue,
    by rw [hvalues]; exact hknown, rfl⟩, rfl, ?_, hsorted, hmembers⟩
  have hempty : state'.memberObservations.isEmpty = state.memberObservations.isEmpty := by
    have := congrArg List.isEmpty hmembers
    rwa [List.isEmpty_map, List.isEmpty_map] at this
  simp only [valuationStatus, hempty, balanceStatus_perm hperm, exists_asset_iff hsorted]

lemma eq_of_memberOrder_eq {left right : WorkspaceMemberAddress}
    (h : memberOrder left = memberOrder right) : memberKey left = memberKey right := by
  simp only [memberOrder, toLex_inj, Prod.mk.injEq] at h
  rw [memberKey, memberKey, accountKey, accountKey, h.1, h.2.1]

lemma sortMembers_perm {members members' : List WorkspaceMemberAddress}
    (hperm : members'.Perm members) (hnodup : (members.map memberKey).Nodup) :
    sortMembers members' = sortMembers members := by
  have hsorted : ∀ list : List WorkspaceMemberAddress, (sortMembers list).Pairwise
      fun left right => memberOrder left ≤ memberOrder right := fun list =>
    haveI : Std.Total fun left right => memberOrder left ≤ memberOrder right :=
      ⟨fun _ _ => le_total _ _⟩
    haveI : IsTrans _ fun left right => memberOrder left ≤ memberOrder right :=
      ⟨fun _ _ _ => le_trans⟩
    List.pairwise_insertionSort _ _
  refine List.Perm.eq_of_pairwise ?_ (hsorted members') (hsorted members)
    ((List.perm_insertionSort _ _).trans (hperm.trans (List.perm_insertionSort _ _).symm))
  intro left right hleft hright hle hge
  have hleft : left ∈ members :=
    hperm.mem_iff.mp ((List.perm_insertionSort _ _).mem_iff.mp hleft)
  have hright : right ∈ members := (List.perm_insertionSort _ _).mem_iff.mp hright
  exact List.inj_on_of_nodup_map hnodup hleft hright (eq_of_memberOrder_eq (le_antisymm hle hge))

lemma memberContributions_perm {added added' : List Addition} (h : added'.Perm added)
    (member : WorkspaceMemberAddress) :
    (memberContributions added member).Perm (memberContributions added' member) :=
  (List.perm_insertionSort _ _).trans
    (((h.symm.filter _).flatMap_right _).trans (List.perm_insertionSort _ _).symm)

/-! ### Every composed portfolio -/

section

variable {registry : CanonicalRegistry} {members : List WorkspaceMemberAddress}
  {commands : List GetBalancesCommand} {outcomes : List CommandResolution}
  {portfolio : CurrentWorkspacePortfolio}

lemma compose_sound (h : compose registry members commands outcomes = .ok portfolio) :
    Truthful portfolio := by
  obtain ⟨-, -, lists, -, collections, h⟩ := compose_eq_ok.mp h
  refine summarize_truthful h ?_ ?_
  · rw [List.flatMap_map]
    rfl
  · intro observation hobservation
    obtain ⟨member, -, rfl⟩ := List.mem_map.mp hobservation
    rfl

lemma compose_perm (h : compose registry members commands outcomes = .ok portfolio)
    {members' : List WorkspaceMemberAddress} (hmembers : members'.Perm members)
    {resolutions : List (GetBalancesCommand × CommandResolution)}
    (hresolutions : resolutions.Perm (commands.zip outcomes)) :
    ∃ portfolio', compose registry members' (resolutions.map Prod.fst)
        (resolutions.map Prod.snd) = .ok portfolio' ∧ SameFigures portfolio portfolio' := by
  obtain ⟨-, hnodup, lists, hlists, collections, h⟩ := compose_eq_ok.mp h
  obtain ⟨lists', hlists', hperm⟩ := mapM_perm hresolutions hlists
  have hsame := memberContributions_perm hperm.flatten
  obtain ⟨portfolio', h', hfigures⟩ := summarize_perm h ⟨collections,
    (sortMembers members).flatMap (memberContributions lists'.flatten),
    (sortMembers members).map (memberObservation lists'.flatten)⟩
    (List.Perm.flatMap_left _ fun member _ => hsame member) (by
      rw [List.map_map, List.map_map]
      refine List.map_congr_left fun member _ => ?_
      simp only [Function.comp_apply, memberObservation, balanceStatus_perm (hsame member)])
  refine ⟨portfolio', compose_eq_ok.mpr ⟨by simp, ?_, lists', ?_, collections, ?_⟩, hfigures⟩
  · exact (hmembers.map memberKey).nodup_iff.mpr hnodup
  · rw [sortMembers_perm hmembers hnodup, ← List.zip_of_prod rfl rfl]
    exact hlists'
  · rw [sortMembers_perm hmembers hnodup]
    exact h'

/-- **A composed portfolio is truthful.** Its values and amounts denote the rational sums of the
contributions they speak of and its statuses say how many of them they cover, and every order of
the members, and of the commands with their outcomes, gives the same. -/
theorem compose_truthful (h : compose registry members commands outcomes = .ok portfolio) :
    Truthful portfolio ∧
      ∀ (members' : List WorkspaceMemberAddress)
          (resolutions : List (GetBalancesCommand × CommandResolution)),
        members'.Perm members → resolutions.Perm (commands.zip outcomes) →
          ∃ portfolio', compose registry members' (resolutions.map Prod.fst)
              (resolutions.map Prod.snd) = .ok portfolio' ∧ SameFigures portfolio portfolio' :=
  ⟨compose_sound h, fun _ _ hmembers hresolutions => compose_perm h hmembers hresolutions⟩

end

/-! ### Two members -/

def treasury : WorkspaceMemberAddress :=
  ⟨"member-1", "eth-mainnet", "0x1111111111111111111111111111111111111111", none, ["treasury"]⟩

def grants : WorkspaceMemberAddress :=
  ⟨"member-2", "eth-mainnet", "0x2222222222222222222222222222222222222222", none, []⟩

lemma pairCommand_accepted : (tryNew .latest [accountOf treasury, accountOf grants] "USD"
    ⟨["ethereum"], []⟩).toOption.isSome = true := by
  decide +kernel

def pairCommand : GetBalancesCommand := value _ pairCommand_accepted

def etherTarget : ResolvedBalanceTarget :=
  ⟨.assetSlug "ethereum", "eth-mainnet", 1, some "ethereum", some "ETH", some "Ethereum", some 18,
    some "ethereum", .native⟩

/-- Both balances are resolved, and one of them has a value. -/
def pairResult : GetBalancesResult where
  asOf := .latest
  quoteCurrency := "USD"
  requestedTokenCount := 1
  accounts := [
    ⟨accountOf treasury, none, [.resolved etherTarget "15" (some "1.5")
      (.available "usd" "2000.5" "3000.75" "2026-06-17T12:00:00Z")]⟩,
    ⟨accountOf grants, none, [.resolved etherTarget "25" (some "0.25")
      (.unavailable .priceResolutionFailed)]⟩]

lemma pair_figures : (compose sampleRegistry [grants, treasury] [pairCommand]
    [.resolved pairResult]).toOption.map (fun portfolio => portfolio.assets.map figures) =
      some [("ethereum", some "1.75", "3000.75", .partially)] := by
  decide +kernel

lemma pair_composed : (compose sampleRegistry [grants, treasury] [pairCommand]
    [.resolved pairResult]).toOption.isSome = true := by
  obtain ⟨portfolio, hportfolio, -⟩ := Option.map_eq_some_iff.mp pair_figures
  rw [hportfolio]
  rfl

theorem compose_truthful_pair :
    (value _ pair_composed).assets.map figures =
        [("ethereum", some "1.75", "3000.75", .partially)] ∧
      Truthful (value _ pair_composed) := by
  have hcomposed := eq_ok_value _ pair_composed
  refine ⟨?_, (compose_truthful hcomposed).1⟩
  have hfigures := pair_figures
  rw [hcomposed] at hfigures
  exact Option.some.inj hfigures

end MotherApi.PortfolioTotals
