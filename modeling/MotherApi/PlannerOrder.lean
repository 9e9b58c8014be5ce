import MotherApi.PortfolioPlan
import MotherApi.RegistryAnswers

/-!
The plan of a portfolio, in the terms of the catalog.

The plan does not depend on the order in which the members arrive. Its commands ask for each
active asset of each member once, and they come by network, then by assets, then by members.
-/

namespace MotherApi.PlannerOrder

open MotherApi.Lib.Fallible MotherApi.Lib.Groups MotherApi.Strings MotherApi.Registry
open MotherApi.BalanceCommand MotherApi.Portfolio MotherApi.PortfolioPlan
open MotherApi.RegistryAnswers

/-- What a command asks for: each of its assets of each of its accounts. -/
def commandPairs (command : GetBalancesCommand) : List (OnchainAccount × String) :=
  command.accounts.flatMap fun account => command.tokens.assetSlugs.map fun slug => (account, slug)

section

variable (catalog : Catalog)

/-- The active assets with an active mapping on the network, if the network is active. -/
def assetsOn (networkSlug : String) : List CanonicalAsset :=
  catalog.assets.filter fun asset => isActive asset.status
    && isMappedTo catalog (toAsciiLowercase networkSlug) asset
    && catalog.networks.any fun network => network.slug == toAsciiLowercase networkSlug
      && isActive network.status

def memberPairs (member : WorkspaceMemberAddress) : List (OnchainAccount × String) :=
  (assetsOn catalog member.networkSlug).map fun asset => (accountOf member, asset.slug)

/-- The slugs are those of two assets in their order. -/
def slugBefore (slug other : String) : Prop :=
  ∃ left ∈ catalog.assets, ∃ right ∈ catalog.assets, left.slug = slug ∧ right.slug = other ∧
    assetKey left < assetKey right

/-- A batch comes before another: by its network, else by its assets, else by its members. -/
def batchBefore (left right : Batch) : Prop :=
  (∀ member ∈ left.2, ∀ other ∈ right.2, member.networkSlug < other.networkSlug) ∨
    (∀ member ∈ left.2, ∀ other ∈ right.2, member.networkSlug = other.networkSlug) ∧
      ((∀ slug ∈ left.1, ∀ other ∈ right.1, slugBefore catalog slug other) ∨
        left.1 = right.1 ∧ ∀ member ∈ left.2, ∀ other ∈ right.2,
          plannerOrder member < plannerOrder other)

/-- One network, within the limits, with the assets and the members in their order. -/
structure Ordered (batch : Batch) : Prop where
  network : ∀ member ∈ batch.2, ∀ other ∈ batch.2, member.networkSlug = other.networkSlug
  accounts : 1 ≤ batch.2.length ∧ batch.2.length ≤ 50
  slugs : 1 ≤ batch.1.length ∧ batch.1.length ≤ 20
  memberOrder : batch.2.Pairwise fun member other => plannerOrder member < plannerOrder other
  slugOrder : batch.1.Pairwise (slugBefore catalog)

end

section

variable {catalog : Catalog} {registry : CanonicalRegistry} (h : BuiltFrom catalog registry)

include h

/-! ### The assets of a network -/

lemma pairwise_activeInOrder :
    (activeInOrder catalog).Pairwise fun left right => assetKey left < assetKey right := by
  refine pairwise_lt_insertionSort ?_
  refine List.Nodup.of_map (fun key : ℤ ×ₗ String ×ₗ String => key.2.2) ?_
  rw [List.map_map]
  exact h.valid.assetSlugs.sublist (List.filter_sublist.map _)

omit h in
lemma mem_activeInOrder {asset : CanonicalAsset} (hasset : asset ∈ activeInOrder catalog) :
    asset ∈ catalog.assets := by
  rw [activeInOrder, List.mem_insertionSort] at hasset
  exact (List.mem_filter.mp hasset).1

lemma pairwise_mappedSlugs (networkSlug : String) :
    (registry.activeAssetSlugsMappedToNetwork networkSlug).Pairwise (slugBefore catalog) := by
  rw [h.answers.mappedSlugs]
  split
  · rw [List.pairwise_map]
    refine List.Pairwise.imp_of_mem ?_ ((pairwise_activeInOrder h).filter _)
    intro left right hleft hright hlt
    exact ⟨left, mem_activeInOrder (List.mem_filter.mp hleft).1, right,
      mem_activeInOrder (List.mem_filter.mp hright).1, rfl, rfl, hlt⟩
  · exact List.Pairwise.nil

lemma mappedSlugs_perm (networkSlug : String) :
    (registry.activeAssetSlugsMappedToNetwork networkSlug).Perm
      ((assetsOn catalog networkSlug).map (·.slug)) := by
  rw [h.answers.mappedSlugs]
  split
  · rename_i hnetwork
    have hany : (catalog.networks.any fun network => network.slug == toAsciiLowercase networkSlug
        && isActive network.status) = true := by
      simpa using hnetwork
    have heq : assetsOn catalog networkSlug = (catalog.assets.filter fun asset =>
        isActive asset.status).filter (isMappedTo catalog (toAsciiLowercase networkSlug)) := by
      rw [assetsOn, List.filter_filter]
      refine List.filter_congr fun asset _ => ?_
      rw [hany, Bool.and_true, Bool.and_comm]
    rw [heq]
    exact ((List.perm_insertionSort _ _).filter _).map _
  · rename_i hnetwork
    have hany : (catalog.networks.any fun network => network.slug == toAsciiLowercase networkSlug
        && isActive network.status) = false := by
      simpa using hnetwork
    simp [assetsOn, hany]

/-! ### The members of a network -/

section

variable {members : List WorkspaceMemberAddress}
  (hdistinct : ((members.map accountOf).map identity).Nodup)

omit h

include hdistinct

lemma nodup_plannerOrder (networkSlug : String) :
    ((members.filter fun member => member.networkSlug = networkSlug).map plannerOrder).Nodup := by
  rw [List.map_map] at hdistinct
  have hfilter : (members.filter fun member => member.networkSlug = networkSlug).Sublist members :=
    List.filter_sublist
  have hnodup := hdistinct.sublist (hfilter.map _)
  refine (List.nodup_map_iff_inj_on (List.Nodup.of_map _ hnodup)).mpr ?_
  intro member hmember other hother heq
  refine List.inj_on_of_nodup_map hnodup hmember hother ?_
  have hslug : member.networkSlug = networkSlug := by simpa using (List.mem_filter.mp hmember).2
  have hslug' : other.networkSlug = networkSlug := by simpa using (List.mem_filter.mp hother).2
  have haddress : toAsciiLowercase member.address = toAsciiLowercase other.address :=
    congrArg (·.1) heq
  exact Prod.ext (hslug.trans hslug'.symm) haddress

/-- **The order of arrival does not matter**: permuted members are cut into the same batches. -/
theorem batches_perm {members' : List WorkspaceMemberAddress} (hperm : members'.Perm members) :
    batches registry members' = batches registry members := by
  rw [batches, batches, groups, groups, keys_perm hperm, List.flatMap_map, List.flatMap_map]
  refine List.flatMap_congr fun networkSlug _ => ?_
  rw [networkBatches_eq, networkBatches_eq]
  rw [insertionSort_eq_of_perm (hperm.filter _).symm (nodup_plannerOrder hdistinct networkSlug)]

end

/-! ### The batches -/

section

variable {members : List WorkspaceMemberAddress}
  (hdistinct : ((members.map accountOf).map identity).Nodup)

include hdistinct

lemma networkBatches_ordered (networkSlug : String) :
    let onNetwork := networkBatches registry
      (networkSlug, members.filter fun member => member.networkSlug = networkSlug)
    (∀ batch ∈ onNetwork, Ordered catalog batch ∧
        ∀ member ∈ batch.2, member.networkSlug = networkSlug) ∧
      onNetwork.Pairwise (batchBefore catalog) := by
  intro onNetwork
  have hmembers : (members.filter fun member => member.networkSlug = networkSlug).insertionSort
      (fun left right => plannerOrder left ≤ plannerOrder right) |>.Pairwise
        fun left right => plannerOrder left < plannerOrder right :=
    pairwise_lt_insertionSort (nodup_plannerOrder hdistinct networkSlug)
  have hslug : ∀ chunk ∈ chunks MAX_ACCOUNTS ((members.filter fun member =>
      member.networkSlug = networkSlug).insertionSort
        fun left right => plannerOrder left ≤ plannerOrder right),
      ∀ member ∈ chunk, member.networkSlug = networkSlug := by
    intro chunk hchunk member hmember
    have hmem := (mem_chunks (by decide) hchunk).2.2.subset hmember
    rw [List.mem_insertionSort] at hmem
    simpa using (List.mem_filter.mp hmem).2
  obtain ⟨hslugChunks, hslugOrder⟩ :=
    pairwise_chunks (show 0 < MAX_TOKENS by decide) (pairwise_mappedSlugs h networkSlug)
  obtain ⟨hmemberChunks, hmemberOrder⟩ := pairwise_chunks (show 0 < MAX_ACCOUNTS by decide) hmembers
  have hbatches : onNetwork = _ := networkBatches_eq registry networkSlug _
  rw [hbatches]
  refine ⟨?_, ?_⟩
  · intro batch hbatch
    obtain ⟨assetChunk, hassetChunk, hbatch⟩ := List.mem_flatMap.mp hbatch
    obtain ⟨memberChunk, hmemberChunk, rfl⟩ := List.mem_map.mp hbatch
    obtain ⟨hassetsNe, hassetsSize, -⟩ := mem_chunks (by decide) hassetChunk
    obtain ⟨hmembersNe, hmembersSize, -⟩ := mem_chunks (by decide) hmemberChunk
    refine ⟨⟨?_, ⟨List.length_pos_iff.mpr hmembersNe, hmembersSize⟩,
      ⟨List.length_pos_iff.mpr hassetsNe, hassetsSize⟩, hmemberChunks _ hmemberChunk,
      hslugChunks _ hassetChunk⟩, hslug _ hmemberChunk⟩
    intro member hmember other hother
    rw [hslug _ hmemberChunk member hmember, hslug _ hmemberChunk other hother]
  · rw [List.pairwise_flatMap]
    refine ⟨?_, ?_⟩
    · intro assetChunk _
      rw [List.pairwise_map]
      refine List.Pairwise.imp_of_mem ?_ hmemberOrder
      intro left right hleft hright hlt
      refine .inr ⟨?_, .inr ⟨rfl, hlt⟩⟩
      intro member hmember other hother
      rw [hslug _ hleft member hmember, hslug _ hright other hother]
    · refine hslugOrder.imp ?_
      intro assets assets' hlt left hleft right hright
      obtain ⟨memberChunk, hmemberChunk, rfl⟩ := List.mem_map.mp hleft
      obtain ⟨memberChunk', hmemberChunk', rfl⟩ := List.mem_map.mp hright
      refine .inr ⟨?_, .inl hlt⟩
      intro member hmember other hother
      rw [hslug _ hmemberChunk member hmember, hslug _ hmemberChunk' other hother]

lemma batches_ordered : (∀ batch ∈ batches registry members, Ordered catalog batch) ∧
    (batches registry members).Pairwise (batchBefore catalog) := by
  rw [batches, groups, List.flatMap_map]
  refine ⟨?_, ?_⟩
  · intro batch hbatch
    obtain ⟨networkSlug, -, hbatch⟩ := List.mem_flatMap.mp hbatch
    exact ((networkBatches_ordered h hdistinct networkSlug).1 batch hbatch).1
  · rw [List.pairwise_flatMap]
    refine ⟨fun networkSlug _ => (networkBatches_ordered h hdistinct networkSlug).2, ?_⟩
    refine (pairwise_lt_keys _ members).imp ?_
    intro networkSlug networkSlug' hlt left hleft right hright
    refine .inl fun member hmember other hother => ?_
    rw [((networkBatches_ordered h hdistinct networkSlug).1 left hleft).2 member hmember,
      ((networkBatches_ordered h hdistinct networkSlug').1 right hright).2 other hother]
    exact hlt

/-! ### The pairs -/

omit hdistinct h

lemma commandPairs_planBatch {batch : Batch} {command : GetBalancesCommand}
    (hcommand : planBatch batch = .ok command) :
    commandPairs command = (requested batch).map fun pair => (accountOf pair.1, pair.2) := by
  obtain ⟨-, haccounts, hslugs, -, -⟩ := tryNew_ok hcommand
  rw [commandPairs, haccounts, hslugs, requested, List.flatMap_map, List.map_flatMap]
  simp only [List.map_map, Function.comp_def]

lemma commandPairs_plan {planned : List Batch} {commands : List GetBalancesCommand}
    (hplan : planned.mapM planBatch = .ok commands) :
    commands.flatMap commandPairs =
      (planned.flatMap requested).map fun pair => (accountOf pair.1, pair.2) := by
  have heq : commands.map commandPairs =
      planned.map fun batch => (requested batch).map fun pair => (accountOf pair.1, pair.2) := by
    rw [← List.forall₂_eq_eq_eq, List.forall₂_map_left_iff, List.forall₂_map_right_iff]
    exact (mapM_eq_ok.mp hplan).flip.imp fun command batch => commandPairs_planBatch
  rw [List.flatMap_def, heq, ← List.flatMap_def, List.map_flatMap]

include h in
lemma memberPairs_perm (members : List WorkspaceMemberAddress) :
    ((members.flatMap (required registry)).map fun pair => (accountOf pair.1, pair.2)).Perm
      (members.flatMap (memberPairs catalog)) := by
  rw [List.map_flatMap]
  refine List.Perm.flatMap_left _ fun member _ => ?_
  rw [required, memberPairs, List.map_map]
  have hperm := (mappedSlugs_perm h member.networkSlug).map fun slug => (accountOf member, slug)
  rwa [List.map_map] at hperm

include h hdistinct in
lemma nodup_memberPairs : (members.flatMap (memberPairs catalog)).Nodup := by
  rw [List.nodup_flatMap]
  refine ⟨fun member _ => ?_, ?_⟩
  · refine List.Nodup.of_map Prod.snd ?_
    rw [memberPairs, List.map_map]
    exact h.valid.assetSlugs.sublist (List.filter_sublist.map _)
  · rw [List.map_map] at hdistinct
    refine (List.pairwise_map.mp hdistinct).imp fun {member other} hne pair hmember hother => ?_
    obtain ⟨asset, -, rfl⟩ := List.mem_map.mp hmember
    obtain ⟨asset', -, heq⟩ := List.mem_map.mp hother
    have haccount : accountOf member = accountOf other := congrArg Prod.fst heq.symm
    exact hne (congrArg identity haccount)

end

end

/-- **The plan of a portfolio**: permuted members have the same plan. Its commands are those of
batches that come by network, then by assets, then by members, and they ask for every active
asset of every member exactly once. -/
theorem plan_ordered {catalog : Catalog} {registry : CanonicalRegistry}
    (hregistry : fromCatalog catalog = .ok registry) {members : List WorkspaceMemberAddress}
    (hvalid : ∀ member ∈ members, isEvmAddress member.address = true)
    (hdistinct : (members.map fun member =>
      (member.networkSlug, toAsciiLowercase member.address)).Nodup) :
    ∃ commands, (∀ members', members'.Perm members → plan registry members' = .ok commands) ∧
      (commands.flatMap commandPairs).Perm (members.flatMap (memberPairs catalog)) ∧
      (commands.flatMap commandPairs).Nodup ∧
      ∃ planned, List.Forall₂ (fun batch command => command.asOf = .latest ∧
          command.accounts = batch.2.map accountOf ∧ command.tokens = ⟨batch.1, []⟩)
          planned commands ∧
        (∀ batch ∈ planned, Ordered catalog batch) ∧ planned.Pairwise (batchBefore catalog) := by
  have h := fromCatalog_builtFrom hregistry
  have hidentities : ((members.map accountOf).map identity).Nodup := by
    rw [List.map_map]
    exact hdistinct
  obtain ⟨commands, hplan⟩ := exists_plan (fromCatalog_indexed hregistry) hvalid hidentities
  have hperm : (commands.flatMap commandPairs).Perm (members.flatMap (memberPairs catalog)) := by
    rw [commandPairs_plan hplan]
    exact ((requested_batches registry members).map _).trans (memberPairs_perm h members)
  obtain ⟨hordered, hpairwise⟩ := batches_ordered h hidentities
  refine ⟨commands, ?_, hperm, hperm.nodup_iff.mpr (nodup_memberPairs h hidentities),
    batches registry members, ?_, hordered, hpairwise⟩
  · intro members' hmembers'
    rw [plan, batches_perm hidentities hmembers']
    exact hplan
  · refine (mapM_eq_ok.mp hplan).imp fun batch command hcommand => ?_
    obtain ⟨hasOf, haccounts, hslugs, hcontracts, -⟩ := tryNew_ok hcommand
    have htokens : command.tokens =
        ⟨command.tokens.assetSlugs, command.tokens.contractAddresses⟩ := rfl
    rw [hslugs, hcontracts] at htokens
    exact ⟨hasOf, haccounts, htokens⟩

def vault : WorkspaceMemberAddress :=
  ⟨"member-1", "eth-mainnet", "0xBb11111111111111111111111111111111111111", none, []⟩

def payroll : WorkspaceMemberAddress :=
  ⟨"member-2", "eth-mainnet", "0xaa22222222222222222222222222222222222222", none, []⟩

theorem plan_ordered_pair :
    ∃ commands, plan sampleRegistry [payroll, vault] = .ok commands ∧
      plan sampleRegistry [vault, payroll] = .ok commands := by
  obtain ⟨commands, hplan, -⟩ := plan_ordered fromCatalog_sampleCatalog
    (show ∀ member ∈ [vault, payroll], isEvmAddress member.address = true by decide +kernel)
    (by decide +kernel)
  exact ⟨commands, hplan _ (.swap _ _ _), hplan _ (.refl _)⟩

end MotherApi.PlannerOrder
