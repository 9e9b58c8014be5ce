import MotherApi.BalanceAttribution
import MotherApi.PortfolioPlan
import MotherApi.PortfolioTotals

/-!
A portfolio has every balance that was planned for, once.

Whatever becomes of the commands of a plan, each of them adds one contribution for each of its
assets to each of its members. As the plan asks for every active asset of every member once, a
member ends up with one contribution for each of them; and since the contributions come from the
balance service, their assets are known and their texts are decimals, so nothing is left that
could fail.
-/

namespace MotherApi.PortfolioCoverage

open MotherApi.Lib.Fallible MotherApi.Lib.Tables MotherApi.Lib.Groups MotherApi.Strings
open MotherApi.Registry MotherApi.BalanceCommand MotherApi.BalanceTargets MotherApi.BalanceResponse
open MotherApi.BalanceService MotherApi.BalanceAttribution MotherApi.Decimal MotherApi.Portfolio
open MotherApi.PortfolioComposition MotherApi.PortfolioSummary MotherApi.PortfolioPlan
open MotherApi.PortfolioTotals

/-- The contribution names the member. -/
def CarriedBy (member : WorkspaceMemberAddress) (contribution : PortfolioContribution) : Prop :=
  contribution.memberId = member.publicId ∧ contribution.networkSlug = member.networkSlug ∧
    contribution.address = member.address ∧ contribution.labels = member.labels

/-- A contribution to a member for an asset, with everything that a summary asks of it. -/
structure ContributionFor (registry : CanonicalRegistry) (member : WorkspaceMemberAddress)
    (assetSlug : String) (contribution : PortfolioContribution) : Prop where
  carried : CarriedBy member contribution
  slug : contributionAssetSlug contribution = some assetSlug
  identified : Identified registry contribution
  decimals : Decimals contribution

/-- What is added for a member by a command for the assets. -/
structure Serves (registry : CanonicalRegistry) (assetSlugs : List String)
    (member : WorkspaceMemberAddress) (addition : Addition) : Prop where
  served : addition.1 = member
  contributions : List.Forall₂ (ContributionFor registry member) assetSlugs addition.2

/-- A command ends without a result, or with one that the balance service can return for it. -/
def CanEnd (registry : CanonicalRegistry) (command : GetBalancesCommand) : CommandResolution → Prop
  | .unavailable => True
  | .resolved result => ∃ env, resolve registry env command = .ok result

/-! ### One contribution -/

section

variable {registry : CanonicalRegistry} {member : WorkspaceMemberAddress}

lemma contributionFor_unavailable (assetSlug : String) :
    ContributionFor registry member assetSlug (commandUnavailableContribution member assetSlug) :=
  ⟨⟨rfl, rfl, rfl, rfl⟩, rfl, nofun, nofun, nofun⟩

lemma amountFor_decimal {target : ResolvedBalanceTarget} {rawAmount amount : String}
    (h : amountFor target rawAmount = .ok (some amount)) : (decimalValue amount).isSome = true := by
  unfold amountFor at h
  split at h
  · cases h
  · obtain ⟨text, htext, h⟩ := bind_eq_ok.mp h
    cases h
    rw [expect_eq_ok] at htext
    cases hformat : formatAmount rawAmount _ with
    | error error =>
      rw [hformat] at htext
      cases htext
    | ok text =>
      rw [hformat] at htext
      cases htext
      exact (formatAmount_renders hformat).isSome_decimalValue

lemma enrichQuote_decimal {quote : PriceQuoteResolution} {decimals : ℕ}
    {rawAmount currency unitPrice value priceAsOf : String}
    (h : enrichQuote quote rawAmount decimals =
      .ok (.available currency unitPrice value priceAsOf)) :
    (decimalValue value).isSome = true := by
  cases quote with
  | available price quoteCurrency quotedAt =>
    simp only [enrichQuote] at h
    rcases multiplyAmountByPrice_spec rawAmount decimals price with
      ⟨error, herror⟩ | ⟨product, n, scale, hproduct, hrenders⟩
    · rw [herror] at h
      cases h
    · rw [hproduct] at h
      cases h
      exact hrenders.isSome_decimalValue
  | unavailable => cases h
  | unsupported => cases h

lemma quoteFor_decimal {quotes : Quotes} {target : ResolvedBalanceTarget}
    {rawAmount currency unitPrice value priceAsOf : String}
    (h : quoteFor quotes target rawAmount = .ok (.available currency unitPrice value priceAsOf)) :
    (decimalValue value).isSome = true := by
  unfold quoteFor at h
  split at h
  · split at h
    · split at h
      · exact enrichQuote_decimal h
      · cases h
    · cases h
    · cases h
  · cases h

/-- The item of an asset, as the service reports it, is a contribution for the asset. -/
lemma contributionFor_balance {networkSlug assetSlug : String} {item : BalanceItemOutcome}
    {quotes : Quotes}
    (hbelongs : BelongsTo registry networkSlug (.assetSlug assetSlug) (toRaw item))
    (henriched : enrichItem quotes (toRaw item) = .ok item) (evidence : Option BalanceEvidence) :
    ContributionFor registry member assetSlug (contribution member evidence (.balance item)) := by
  cases item with
  | skipped skippedNetwork skippedAsset =>
    obtain ⟨-, -, heq⟩ := hbelongs
    cases heq
    exact ⟨⟨rfl, rfl, rfl, rfl⟩, rfl, nofun, nofun, nofun⟩
  | failed target code =>
    obtain ⟨-, -, -, hslug, -⟩ := hbelongs
    exact ⟨⟨rfl, rfl, rfl, rfl⟩, hslug assetSlug rfl, nofun, nofun, nofun⟩
  | resolved target rawAmount amount quote =>
    obtain ⟨htarget, -, -, hslug, -⟩ := hbelongs
    have hslug := hslug assetSlug rfl
    obtain ⟨amount', hamount, henriched⟩ := bind_eq_ok.mp henriched
    obtain ⟨quote', hquote, henriched⟩ := bind_eq_ok.mp henriched
    cases henriched
    refine ⟨⟨rfl, rfl, rfl, rfl⟩, hslug, fun _ => ⟨assetSlug, hslug, ?_⟩, ?_, ?_⟩
    · rw [targetOf] at htarget
      split at htarget
      · rename_i found hfound
        obtain ⟨-, -, asset, hasset, -⟩ := resolveAsset_resolved hfound
        rw [hasset, Option.isSome_some]
      · cases htarget
    · intro text htext
      cases htext
      exact amountFor_decimal hamount
    · intro text htext
      cases quote with
      | available currency unitPrice value priceAsOf =>
        simp only [availableUsdQuoteValue, contribution] at htext
        split at htext
        · cases htext
          exact quoteFor_decimal hquote
        · cases htext
      | unavailable => cases htext
      | unsupported => cases htext

end

/-! ### One command -/

section

variable {registry : CanonicalRegistry} {lookup : MemberLookup} {batch : Batch}
  {command : GetBalancesCommand}

lemma planBatch_ok (h : planBatch batch = .ok command) :
    command.accounts = batch.2.map accountOf ∧ command.tokens = ⟨batch.1, []⟩ ∧
      command.quoteCurrency = PORTFOLIO_QUOTE_CURRENCY := by
  obtain ⟨-, haccounts, hassets, hcontracts, hcurrency⟩ := tryNew_ok h
  refine ⟨haccounts, ?_, hcurrency.trans (by decide)⟩
  rw [List.map_nil, List.eraseDups_nil] at hcontracts
  calc command.tokens = ⟨command.tokens.assetSlugs, command.tokens.contractAddresses⟩ := rfl
    _ = ⟨batch.1, []⟩ := by rw [hassets, hcontracts]

lemma gather_unavailable (hplan : planBatch batch = .ok command)
    (hlookup : ∀ member ∈ batch.2, lookup (memberKey member) = some member) :
    ∃ added, gather lookup (command, .unavailable) = .ok added ∧
      List.Forall₂ (Serves registry batch.1) batch.2 added := by
  obtain ⟨haccounts, htokens, -⟩ := planBatch_ok hplan
  have hgather : gather lookup (command, .unavailable) =
      batch.2.mapM fun member => unavailableAddition lookup command (accountOf member) := by
    simp only [gather, additions, htokens, List.isEmpty_nil, not_true_eq_false, if_false, haccounts,
      bind, Except.bind, List.mapM_map, Function.comp_def, id_eq]
  rw [hgather]
  refine exists_mapM_forall₂ fun member hmember => ?_
  have hfound : lookup (accountKey member.networkSlug member.address) = some member :=
    hlookup member hmember
  refine ⟨(member, batch.1.map (commandUnavailableContribution member)), ?_, rfl, ?_⟩
  · simp only [unavailableAddition, accountOf, hfound, htokens]
  · rw [List.forall₂_map_right_iff]
    exact List.forall₂_same.mpr fun assetSlug _ => contributionFor_unavailable assetSlug

lemma answers_for (hindexed : Indexed registry) (hplan : planBatch batch = .ok command)
    {env : Environment} {result : GetBalancesResult}
    (hresolve : resolve registry env command = .ok result) :
    List.Forall₂ (fun member answer => answer.account = accountOf member ∧
        List.Forall₂ (fun assetSlug item => ContributionFor registry member assetSlug
          (contribution member answer.evidence (.balance item))) batch.1 answer.items)
      batch.2 result.accounts := by
  obtain ⟨haccounts, htokens, -⟩ := planBatch_ok hplan
  obtain ⟨plans, -, hresolution⟩ := resolve_ok hindexed hresolve
  obtain ⟨quotes, hquotes⟩ := hresolution.enriched
  have hanswers : List.Forall₂ (fun answer member => answer.account = accountOf member)
      result.accounts batch.2 := by
    have heq := hresolution.accounts.trans haccounts
    rw [← List.forall₂_eq_eq_eq, List.forall₂_map_left_iff, List.forall₂_map_right_iff] at heq
    exact heq
  refine List.Forall₂.flip (((List.forall₂_and_left _ _).mpr ⟨fun answer hanswer => hanswer,
    hanswers⟩).imp fun answer member h => ⟨h.2, ?_⟩)
  obtain ⟨hanswer, -⟩ := h
  obtain ⟨plan, -, -, hitems⟩ := hresolution.items answer hanswer
  have hselectors : selectors command.tokens = batch.1.map .assetSlug := by
    simp [htokens, selectors]
  rw [hselectors, List.forall₂_map_left_iff] at hitems
  refine List.Forall₂.flip (((List.forall₂_and_left _ _).mpr ⟨fun item hitem => hitem,
    hitems.flip⟩).imp fun item assetSlug h => ?_)
  exact contributionFor_balance h.2.belongs (hquotes answer hanswer item h.1) _

lemma gather_resolved (hindexed : Indexed registry) (hplan : planBatch batch = .ok command)
    (hlookup : ∀ member ∈ batch.2, lookup (memberKey member) = some member)
    {env : Environment} {result : GetBalancesResult}
    (hresolve : resolve registry env command = .ok result) :
    ∃ added, gather lookup (command, .resolved result) = .ok added ∧
      List.Forall₂ (Serves registry batch.1) batch.2 added := by
  obtain ⟨haccounts, htokens, hcurrency⟩ := planBatch_ok hplan
  obtain ⟨plans, -, hresolution⟩ := resolve_ok hindexed hresolve
  obtain ⟨hlength, hanswers⟩ := List.forall₂_iff_zip.mp (answers_for hindexed hplan hresolve)
  have hcurrency : result.quoteCurrency = PORTFOLIO_QUOTE_CURRENCY :=
    hresolution.quoteCurrency.trans hcurrency
  have hcount : result.accounts.length = command.accounts.length := by
    rw [haccounts, List.length_map, hlength]
  have hgather : gather lookup (command, .resolved result) =
      (batch.2.zip result.accounts).mapM fun pair =>
        balanceAddition lookup command (accountOf pair.1, pair.2) := by
    simp only [gather, additions, htokens, List.isEmpty_nil, not_true_eq_false, if_false,
      hcurrency, hresolution.requestedTokenCount, hcount, ne_eq, or_self, bind, Except.bind,
      haccounts, List.zip_map_left, List.mapM_map, Function.comp_def, Prod.map, id_eq]
  rw [hgather]
  have hserves : ∀ pair ∈ batch.2.zip result.accounts, ∃ addition,
      balanceAddition lookup command (accountOf pair.1, pair.2) = .ok addition ∧
        Serves registry batch.1 pair.1 addition := by
    rintro ⟨member, answer⟩ hpair
    obtain ⟨haccount, hitems⟩ := hanswers hpair
    have hfound : lookup (accountKey member.networkSlug member.address) = some member :=
      hlookup member (List.of_mem_zip hpair).1
    have hsize : answer.items.length = command.tokens.len := by
      rw [← hitems.length_eq, htokens]
      rfl
    refine ⟨(member, answer.items.map fun item =>
      contribution member answer.evidence (.balance item)), ?_, rfl, ?_⟩
    · simp only [balanceAddition, haccount, accountOf, hfound, hsize, ne_eq, not_true_eq_false,
        or_self, if_false]
    · rw [List.forall₂_map_right_iff]
      exact hitems
  obtain ⟨added, hadded, hall⟩ := exists_mapM_forall₂ hserves
  refine ⟨added, hadded, ?_⟩
  rw [← List.map_fst_zip hlength.le, List.forall₂_map_left_iff]
  exact hall

end

/-! ### All commands -/

section

variable {registry : CanonicalRegistry} {lookup : MemberLookup}

/-- Whatever becomes of the commands of a plan, every batch is served. -/
lemma gather_plan (hindexed : Indexed registry) {bs : List Batch}
    {commands : List GetBalancesCommand} {outcomes : List CommandResolution}
    (hplan : List.Forall₂ (fun batch command => planBatch batch = .ok command) bs commands)
    (hends : List.Forall₂ (CanEnd registry) commands outcomes)
    (hlookup : ∀ batch ∈ bs, ∀ member ∈ batch.2, lookup (memberKey member) = some member) :
    ∃ lists, (commands.zip outcomes).mapM (gather lookup) = .ok lists ∧
      List.Forall₂ (fun batch added => List.Forall₂ (Serves registry batch.1) batch.2 added)
        bs lists := by
  simp only [mapM_eq_ok]
  induction hplan generalizing outcomes with
  | nil =>
    cases hends
    exact ⟨[], .nil, .nil⟩
  | @cons batch command _ _ hcommand _ ih =>
    cases hends with
    | @cons _ outcome _ _ hend hends =>
      obtain ⟨lists, hlists, hserved⟩ :=
        ih hends fun batch hbatch => hlookup batch (List.mem_cons_of_mem _ hbatch)
      have hlookup := hlookup batch List.mem_cons_self
      obtain ⟨added, hadded, hfirst⟩ : ∃ added, gather lookup (command, outcome) = .ok added ∧
          List.Forall₂ (Serves registry batch.1) batch.2 added := by
        cases outcome with
        | unavailable => exact gather_unavailable hcommand hlookup
        | resolved result =>
          obtain ⟨env, hresolve⟩ := hend
          exact gather_resolved hindexed hcommand hlookup hresolve
      exact ⟨added :: lists, .cons hadded hlists, .cons hfirst hserved⟩

end

/-! ### All members -/

/-- The contributions of a list of additions, each with its member. -/
def entries (added : List Addition) : List (WorkspaceMemberAddress × PortfolioContribution) :=
  added.flatMap fun addition => addition.2.map fun contribution => (addition.1, contribution)

lemma addedFor_eq (key : MemberKey) (added : List Addition) :
    addedFor key added =
      ((entries added).filter fun entry => memberKey entry.1 = key).map Prod.snd := by
  induction added with
  | nil => rfl
  | cons addition added ih =>
    have hcons : addedFor key (addition :: added) =
        addedFor key [addition] ++ addedFor key added := addedFor_append key [addition] added
    have hhead : addedFor key [addition] =
        ((addition.2.map fun contribution => (addition.1, contribution)).filter
          fun entry => memberKey entry.1 = key).map Prod.snd := by
      by_cases hkey : memberKey addition.1 = key
      · simp [addedFor, hkey, List.filter_map, Function.comp_def]
      · simp [addedFor, hkey, List.filter_map, Function.comp_def]
    have hentries : entries (addition :: added) =
        (addition.2.map fun contribution => (addition.1, contribution)) ++ entries added :=
      List.flatMap_cons
    rw [hcons, ih, hhead, hentries, List.filter_append, List.map_append]

section

variable {registry : CanonicalRegistry} {members : List WorkspaceMemberAddress}

/-- What was asked for, one by one, is what was added. -/
lemma forall₂_entries {bs : List Batch} {lists : List (List Addition)}
    (h : List.Forall₂ (fun batch added => List.Forall₂ (Serves registry batch.1) batch.2 added)
      bs lists) :
    List.Forall₂ (fun pair entry => entry.1 = pair.1 ∧
        ContributionFor registry pair.1 pair.2 entry.2)
      (bs.flatMap requested) (entries lists.flatten) := by
  have hentries : entries lists.flatten = lists.flatMap entries := by
    rw [entries, ← List.flatMap_id, List.flatMap_assoc]
    rfl
  rw [hentries]
  refine List.rel_flatMap h fun batch added hserved => ?_
  refine List.rel_flatMap hserved fun member addition hserves => ?_
  obtain ⟨rfl, hcontributions⟩ := hserves
  rw [List.forall₂_map_left_iff, List.forall₂_map_right_iff]
  exact hcontributions.imp fun _ _ hcontribution => ⟨rfl, hcontribution⟩

lemma filter_required (hdistinct : (members.map memberKey).Nodup) {member : WorkspaceMemberAddress}
    (h : member ∈ members) :
    ((members.flatMap (required registry)).filter fun pair => memberKey pair.1 = memberKey member) =
      required registry member := by
  obtain ⟨before, after, rfl⟩ := List.append_of_mem h
  have hother : ∀ other ∈ before ++ after, memberKey other ≠ memberKey member := by
    intro other hother heq
    rw [List.map_append, List.map_cons, List.nodup_middle, List.nodup_cons,
      ← List.map_append] at hdistinct
    exact hdistinct.1 (heq ▸ List.mem_map_of_mem hother)
  have hnone : ∀ others : List WorkspaceMemberAddress, others ⊆ before ++ after →
      (others.flatMap (required registry)).filter
        (fun pair => memberKey pair.1 = memberKey member) = [] := by
    intro others hothers
    rw [List.filter_eq_nil_iff]
    intro pair hpair
    obtain ⟨other, hmem, hpair⟩ := List.mem_flatMap.mp hpair
    obtain ⟨assetSlug, -, rfl⟩ := List.mem_map.mp hpair
    simpa using hother other (hothers hmem)
  have hall : (required registry member).filter
      (fun pair => memberKey pair.1 = memberKey member) = required registry member := by
    rw [List.filter_eq_self]
    intro pair hpair
    obtain ⟨assetSlug, -, rfl⟩ := List.mem_map.mp hpair
    simp
  rw [List.flatMap_append, List.flatMap_cons, List.filter_append, List.filter_append,
    hnone before (List.subset_append_left _ _), hnone after (List.subset_append_right _ _), hall,
    List.append_nil, List.nil_append]

/-- A member gets one contribution for each active asset of its network. -/
lemma memberContributions_serves (hdistinct : (members.map memberKey).Nodup)
    {lists : List (List Addition)}
    (hserved : List.Forall₂
      (fun batch added => List.Forall₂ (Serves registry batch.1) batch.2 added)
      (batches registry members) lists) {member : WorkspaceMemberAddress} (h : member ∈ members) :
    ((memberContributions lists.flatten member).map contributionAssetSlug).Perm
        ((registry.activeAssetSlugsMappedToNetwork member.networkSlug).map some) ∧
      ∀ contribution ∈ memberContributions lists.flatten member,
        ∃ assetSlug, ContributionFor registry member assetSlug contribution := by
  have hsort : (memberContributions lists.flatten member).Perm
      (addedFor (memberKey member) lists.flatten) := List.perm_insertionSort _ _
  -- the pairs of the member, against its entries
  have hpairs := List.rel_filter (p := fun pair => memberKey pair.1 = memberKey member)
    (q := fun entry => memberKey entry.1 = memberKey member)
    (fun pair entry heq => by simp only [heq.1]) (forall₂_entries hserved)
  have hperm := (requested_batches registry members).filter
    fun pair => memberKey pair.1 = memberKey member
  rw [filter_required hdistinct h] at hperm
  rw [addedFor_eq] at hsort
  refine ⟨(hsort.map _).trans ?_, fun contribution hcontribution => ?_⟩
  · have hslugs : ((batches registry members).flatMap requested |>.filter
          fun pair => memberKey pair.1 = memberKey member).map (fun pair => some pair.2) =
        (((entries lists.flatten).filter fun entry =>
          memberKey entry.1 = memberKey member).map Prod.snd).map contributionAssetSlug := by
      rw [← List.forall₂_eq_eq_eq, List.map_map, List.forall₂_map_left_iff,
        List.forall₂_map_right_iff]
      exact hpairs.imp fun pair entry hentry => hentry.2.slug.symm
    rw [← hslugs]
    have hrequired : (required registry member).map (fun pair => some pair.2) =
        (registry.activeAssetSlugsMappedToNetwork member.networkSlug).map some := by
      rw [required, List.map_map]
      rfl
    rw [← hrequired]
    exact hperm.map _
  · obtain ⟨entry, hentry, rfl⟩ := List.mem_map.mp (hsort.mem_iff.mp hcontribution)
    obtain ⟨pair, hpair, -, hfor⟩ := exists_of_forall₂ hpairs.flip hentry
    obtain ⟨assetSlug, -, rfl⟩ := List.mem_map.mp (hperm.mem_iff.mp hpair)
    exact ⟨assetSlug, hfor⟩

end

/-! ### The whole portfolio -/

/-- The portfolio has every member once, with one contribution for every active asset of its
network, and the resolved ones once more under their assets. -/
structure Covers (registry : CanonicalRegistry) (members : List WorkspaceMemberAddress)
    (portfolio : CurrentWorkspacePortfolio) : Prop where
  members : (portfolio.members.map (·.member)).Perm members
  oneForEachAsset : ∀ observation ∈ portfolio.members,
    (registry.activeAssetSlugsMappedToNetwork observation.member.networkSlug).Nodup ∧
      (observation.contributions.map contributionAssetSlug).Perm
        ((registry.activeAssetSlugsMappedToNetwork observation.member.networkSlug).map some)
  carried : ∀ observation ∈ portfolio.members, ∀ contribution ∈ observation.contributions,
    CarriedBy observation.member contribution
  resolved : (portfolio.assets.flatMap (·.contributions)).Perm
    ((contributions portfolio).filter isResolved)
  ownAsset : ∀ asset ∈ portfolio.assets, ∀ contribution ∈ asset.contributions,
    contributionAssetSlug contribution = some asset.assetSlug
  assetsDistinct : (portfolio.assets.map (·.assetSlug)).Nodup

section

variable {registry : CanonicalRegistry} {members : List WorkspaceMemberAddress}

lemma perm_sortMembers : (sortMembers members).Perm members := List.perm_insertionSort _ _

lemma memberLookup_sortMembers (hdistinct : (members.map memberKey).Nodup)
    {member : WorkspaceMemberAddress} (h : member ∈ members) :
    memberLookup (sortMembers members) (memberKey member) = some member := by
  have hkeys : (((sortMembers members).map fun member => (memberKey member, member)).map
      Prod.fst).Nodup := by
    rw [List.map_map]
    exact (perm_sortMembers.map memberKey).nodup_iff.mpr hdistinct
  exact (ofPairs_eq_some hkeys).mpr (List.mem_map.mpr ⟨member, perm_sortMembers.mem_iff.mpr h, rfl⟩)

/-- A summary has the resolved contributions under their assets. -/
lemma summarize_assets {state : Observing} {portfolio : CurrentWorkspacePortfolio}
    (h : summarize registry state = .ok portfolio) :
    (portfolio.assets.flatMap (·.contributions)).Perm (state.allContributions.filter isResolved) ∧
      (∀ asset ∈ portfolio.assets, ∀ contribution ∈ asset.contributions,
        contributionAssetSlug contribution = some asset.assetSlug) ∧
      (portfolio.assets.map (·.assetSlug)).Nodup := by
  obtain ⟨hidentified, assets, hassets, knownValue, -, rfl⟩ := summarize_eq_ok.mp h
  refine ⟨(perm_sortedAssets.flatMap_right _).trans ?_, ?_, ?_⟩
  · have hgroups : assets.flatMap (·.contributions) =
        (byAsset state.allContributions).flatMap Prod.snd := by
      rw [List.flatMap_def, List.flatMap_def]
      refine congrArg List.flatten ?_
      rw [← List.forall₂_eq_eq_eq, List.forall₂_map_left_iff, List.forall₂_map_right_iff]
      exact hassets.flip.imp fun asset group haggregate => haggregate.contributions
    rw [hgroups]
    exact flatMap_byAsset hidentified
  · intro asset hasset contribution hcontribution
    obtain ⟨group, hgroup, haggregate⟩ :=
      exists_of_forall₂ hassets.flip (perm_sortedAssets.mem_iff.mp hasset)
    rw [haggregate.contributions, (mem_byAsset hgroup).2] at hcontribution
    have := (List.mem_filter.mp hcontribution).2
    simp only [Bool.and_eq_true, beq_iff_eq] at this
    rw [haggregate.assetSlug, this.2]
  · have hslugs : assets.map (·.assetSlug) = (byAsset state.allContributions).map Prod.fst := by
      rw [← List.forall₂_eq_eq_eq, List.forall₂_map_left_iff, List.forall₂_map_right_iff]
      exact hassets.flip.imp fun asset group haggregate => haggregate.assetSlug
    refine ((perm_sortedAssets.map _).nodup_iff).mpr ?_
    rw [hslugs]
    exact nodup_byAsset _

lemma compose_of_plan (hindexed : Indexed registry) (hdistinct : (members.map memberKey).Nodup)
    {commands : List GetBalancesCommand} (hplan : plan registry members = .ok commands)
    {outcomes : List CommandResolution} (hends : List.Forall₂ (CanEnd registry) commands outcomes) :
    ∃ portfolio, compose registry members commands outcomes = .ok portfolio ∧
      Covers registry members portfolio := by
  have hlookup : ∀ batch ∈ batches registry members, ∀ member ∈ batch.2,
      memberLookup (sortMembers members) (memberKey member) = some member :=
    fun batch hbatch member hmember =>
      memberLookup_sortMembers hdistinct ((withinLimits hbatch).chosen.subset hmember)
  obtain ⟨lists, hlists, hserved⟩ := gather_plan hindexed (mapM_eq_ok.mp hplan) hends hlookup
  have hserves := fun member (hmember : member ∈ sortMembers members) =>
    memberContributions_serves hdistinct hserved (perm_sortMembers.mem_iff.mp hmember)
  have hfor : ∀ contribution ∈ (sortMembers members).flatMap (memberContributions lists.flatten),
      ∃ member assetSlug, ContributionFor registry member assetSlug contribution := by
    intro contribution hcontribution
    obtain ⟨member, hmember, hcontribution⟩ := List.mem_flatMap.mp hcontribution
    exact ⟨member, (hserves member hmember).2 contribution hcontribution⟩
  obtain ⟨portfolio, hportfolio⟩ : ∃ portfolio, summarize registry ⟨fun _ => none,
      (sortMembers members).flatMap (memberContributions lists.flatten),
      (sortMembers members).map (memberObservation lists.flatten)⟩ = .ok portfolio := by
    refine exists_summarize ?_ ?_
    · intro contribution hcontribution
      obtain ⟨_, _, h⟩ := hfor contribution hcontribution
      exact h.identified
    · intro contribution hcontribution
      obtain ⟨_, _, h⟩ := hfor contribution hcontribution
      exact h.decimals
  refine ⟨portfolio, compose_eq_ok.mpr ⟨hends.length_eq, hdistinct, lists, hlists, _, hportfolio⟩,
    ?_⟩
  obtain ⟨hresolved, hown, hassets⟩ := summarize_assets hportfolio
  obtain ⟨-, _, -, _, -, rfl⟩ := summarize_eq_ok.mp hportfolio
  refine ⟨?_, ?_, ?_, ?_, hown, hassets⟩
  · rw [List.map_map]
    exact (List.map_id (sortMembers members)).symm ▸ perm_sortMembers
  · intro observation hobservation
    obtain ⟨member, hmember, rfl⟩ := List.mem_map.mp hobservation
    exact ⟨nodup_activeAssetSlugsMappedToNetwork hindexed _, (hserves member hmember).1⟩
  · intro observation hobservation contribution hcontribution
    obtain ⟨member, hmember, rfl⟩ := List.mem_map.mp hobservation
    obtain ⟨assetSlug, h⟩ := (hserves member hmember).2 contribution hcontribution
    exact h.carried
  · rw [contributions, List.flatMap_map]
    exact hresolved

/-- **Nothing is lost and nothing is doubled.** For members with lowercase addresses, distinct
without regard to the case of their networks, there is a plan, and whatever becomes of each of
its commands, the portfolio can be composed and covers the members. -/
theorem compose_covers {catalog : Catalog} (hregistry : fromCatalog catalog = .ok registry)
    (hvalid : ∀ member ∈ members, isEvmAddress member.address = true ∧
      toAsciiLowercase member.address = member.address)
    (hdistinct : (members.map fun member =>
      (toAsciiLowercase member.networkSlug, member.address)).Nodup) :
    ∃ commands, plan registry members = .ok commands ∧
      ∀ outcomes, List.Forall₂ (CanEnd registry) commands outcomes →
        ∃ portfolio, compose registry members commands outcomes = .ok portfolio ∧
          Covers registry members portfolio := by
  have hindexed := fromCatalog_indexed hregistry
  have hkeys : (members.map memberKey).Nodup := by
    have heq : members.map memberKey = members.map fun member =>
        (toAsciiLowercase member.networkSlug, member.address) := by
      refine List.map_congr_left fun member hmember => ?_
      rw [memberKey, accountKey, (hvalid member hmember).2]
    rw [heq]
    exact hdistinct
  obtain ⟨commands, hplan⟩ := exists_plan hindexed (fun member hmember =>
    (hvalid member hmember).1) (nodup_identity hkeys)
  exact ⟨commands, hplan, fun outcomes hends => compose_of_plan hindexed hkeys hplan hends⟩

end

/-! ### Three members, and twins -/

/-- A member of another network. -/
def till : WorkspaceMemberAddress :=
  ⟨"member-3", "base-mainnet", "0x3333333333333333333333333333333333333333", none, []⟩

lemma tillCommand_accepted :
    (tryNew .latest [accountOf till] "usd" ⟨["ethereum"], []⟩).toOption.isSome = true := by
  decide +kernel

def tillCommand : GetBalancesCommand := value _ tillCommand_accepted

lemma ownersCommand_accepted : (tryNew .latest [accountOf treasury, accountOf grants] "usd"
    ⟨["ethereum", "usd-coin"], []⟩).toOption.isSome = true := by
  decide +kernel

def ownersCommand : GetBalancesCommand := value _ ownersCommand_accepted

lemma plan_household :
    plan severalRegistry [grants, till, treasury] = .ok [tillCommand, ownersCommand] := by
  decide +kernel

def usdCoinTarget : ResolvedBalanceTarget :=
  ⟨.assetSlug "usd-coin", "eth-mainnet", 1, some "usd-coin", some "USDC", some "USD Coin", some 6,
    some "usd-coin", .erc20 "0xa0b86991c6218b36c1d19d4a2e9eb0ce3606eb48"⟩

def ownersEvidence : BalanceEvidence where
  networkSlug := "eth-mainnet"
  observedAt := "2026-06-17T12:00:00Z"
  blockNumber := "25000000"
  blockHash := "0xab"
  blockTimestamp := "2026-06-17T12:00:00Z"

def ownersResult : GetBalancesResult where
  asOf := .latest
  quoteCurrency := "USD"
  requestedTokenCount := 2
  accounts := [
    ⟨accountOf treasury, some ownersEvidence, [
      .resolved etherTarget "1500000000000000000" (some "1.500000000000000000")
        (.available "USD" "2000.5" "3000.750000000000000000" "2026-06-17T12:00:00Z"),
      .failed usdCoinTarget .balanceResolutionFailed]⟩,
    ⟨accountOf grants, some ownersEvidence, [
      .resolved etherTarget "250000000000000000" (some "0.250000000000000000")
        (.available "USD" "2000.5" "500.125000000000000000" "2026-06-17T12:00:00Z"),
      .resolved usdCoinTarget "7250000" (some "7.250000")
        (.unavailable .priceResolutionFailed)]⟩]

/-- The provider has all balances but one, and a price for the native asset only. -/
def ownersEnvironment : Environment where
  client := some fun _ => .finished (.ok {
    primitive := .evmBalances
    status := .partially
    network := ⟨"eth-mainnet", 1⟩
    requestedAsOf := .latest
    resolvedEvidence := ⟨.observedHead, "25000000", "0xab", "2026-06-17T12:00:00Z"⟩
    items := [
      .resolved "0x1111111111111111111111111111111111111111" .native "1500000000000000000",
      .failed "0x1111111111111111111111111111111111111111"
        (.erc20 "0xa0b86991c6218b36c1d19d4a2e9eb0ce3606eb48"),
      .resolved "0x2222222222222222222222222222222222222222" .native "250000000000000000",
      .resolved "0x2222222222222222222222222222222222222222"
        (.erc20 "0xa0b86991c6218b36c1d19d4a2e9eb0ce3606eb48") "7250000"] })
  completion := List.reverse
  completion_perm := mixed_perm
  priceQuoteReader := some fun _ _ => .ok fun slug =>
    if slug = "ethereum" then some (.available "2000.5" "USD" "2026-06-17T12:00:00Z") else none

lemma resolve_ownersCommand :
    resolve severalRegistry ownersEnvironment ownersCommand = .ok ownersResult := by
  decide +kernel

lemma household_figures :
    (compose severalRegistry [grants, till, treasury] [tillCommand, ownersCommand]
        [.unavailable, .resolved ownersResult]).toOption.map
          (fun portfolio => portfolio.assets.map figures) =
      some [("ethereum", some "1.750000000000000000", "3500.875000000000000000", .complete),
        ("usd-coin", some "7.250000", "0", .partially)] := by
  decide +kernel

theorem compose_covers_household :
    plan severalRegistry [grants, till, treasury] = .ok [tillCommand, ownersCommand] ∧
      List.Forall₂ (CanEnd severalRegistry) [tillCommand, ownersCommand]
        [.unavailable, .resolved ownersResult] ∧
      ∃ portfolio, compose severalRegistry [grants, till, treasury] [tillCommand, ownersCommand]
          [.unavailable, .resolved ownersResult] = .ok portfolio ∧
        portfolio.assets.map figures =
          [("ethereum", some "1.750000000000000000", "3500.875000000000000000", .complete),
            ("usd-coin", some "7.250000", "0", .partially)] ∧
        Covers severalRegistry [grants, till, treasury] portfolio := by
  have hends : List.Forall₂ (CanEnd severalRegistry) [tillCommand, ownersCommand]
      [.unavailable, .resolved ownersResult] :=
    .cons trivial (.cons ⟨ownersEnvironment, resolve_ownersCommand⟩ .nil)
  obtain ⟨commands, hplan, hcompose⟩ := compose_covers fromCatalog_severalCatalog
    (show ∀ member ∈ [grants, till, treasury], isEvmAddress member.address = true ∧
      toAsciiLowercase member.address = member.address by decide +kernel)
    (by decide +kernel)
  obtain rfl : [tillCommand, ownersCommand] = commands :=
    Except.ok.inj (plan_household.symm.trans hplan)
  obtain ⟨portfolio, hportfolio, hcovers⟩ := hcompose _ hends
  refine ⟨plan_household, hends, portfolio, hportfolio, ?_, hcovers⟩
  have hfigures := household_figures
  rw [hportfolio] at hfigures
  exact Option.some.inj hfigures

/-- One address on one network, which is written in two ways. -/
def twins : List WorkspaceMemberAddress :=
  [⟨"member-1", "eth-mainnet", "0x1111111111111111111111111111111111111111", none, []⟩,
    ⟨"member-2", "ETH-MAINNET", "0x1111111111111111111111111111111111111111", none, []⟩]

lemma plan_twins : (plan sampleRegistry twins).toOption.isSome = true := by
  decide +kernel

/-- The twins are distinct members and can be planned for, but they share a collection, and the
second finds it removed. -/
theorem compose_twins_panics :
    (∀ member ∈ twins, isEvmAddress member.address = true ∧
        toAsciiLowercase member.address = member.address) ∧
      (twins.map fun member => (member.networkSlug, member.address)).Nodup ∧
      fromCatalog sampleCatalog = .ok sampleRegistry ∧
      plan sampleRegistry twins = .ok (value _ plan_twins) ∧
      compose sampleRegistry twins (value _ plan_twins)
        ((value _ plan_twins).map fun _ => .unavailable) = .error .panic :=
  ⟨by decide +kernel, by decide +kernel, fromCatalog_sampleCatalog, eq_ok_value _ plan_twins,
    by decide +kernel⟩

end MotherApi.PortfolioCoverage
