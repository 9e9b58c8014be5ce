import MotherApi.Portfolio
import Mathlib.Data.List.Perm.Subperm

/-!
What the planner asks for.

The members are grouped by network, and the assets of a network and its members are cut into
chunks. The chunks stay within the limits of a command, so every command is accepted, and
together the commands ask for every active asset of every member exactly once.
-/

namespace MotherApi.PortfolioPlan

open MotherApi.Lib.Fallible MotherApi.Lib.Groups MotherApi.Strings
open MotherApi.Registry MotherApi.BalanceCommand MotherApi.Portfolio

/-- What a batch asks for: each of its assets of each of its members. -/
def requested (batch : Batch) : List (WorkspaceMemberAddress × String) :=
  batch.2.flatMap fun member => batch.1.map fun assetSlug => (member, assetSlug)

section

variable (registry : CanonicalRegistry)

/-- What is to be asked for of a member: every active asset of its network. -/
def required (member : WorkspaceMemberAddress) : List (WorkspaceMemberAddress × String) :=
  (registry.activeAssetSlugsMappedToNetwork member.networkSlug).map fun assetSlug =>
    (member, assetSlug)

lemma networkBatches_eq (networkSlug : String) (members : List WorkspaceMemberAddress) :
    networkBatches registry (networkSlug, members) =
      (chunks MAX_TOKENS (registry.activeAssetSlugsMappedToNetwork networkSlug)).flatMap
        fun assetChunk => (chunks MAX_ACCOUNTS (members.insertionSort fun left right =>
          plannerOrder left ≤ plannerOrder right)).map fun memberChunk =>
            (assetChunk, memberChunk) := by
  unfold networkBatches
  simp only
  split
  · rename_i hempty
    rw [List.isEmpty_iff.mp hempty]
    rfl
  · rfl

/-! ### Everything is asked for once -/

lemma requested_networkBatches (networkSlug : String) {members : List WorkspaceMemberAddress}
    (h : ∀ member ∈ members, member.networkSlug = networkSlug) :
    ((networkBatches registry (networkSlug, members)).flatMap requested).Perm
      (members.flatMap (required registry)) := by
  rw [networkBatches_eq]
  generalize hassets : registry.activeAssetSlugsMappedToNetwork networkSlug = assetSlugs
  have hsort := List.perm_insertionSort
    (fun left right => plannerOrder left ≤ plannerOrder right) members
  generalize (members.insertionSort fun left right => plannerOrder left ≤ plannerOrder right) =
    sorted at hsort ⊢
  -- the members of a chunk of assets, chunk by chunk, are all members
  have hmembers : ∀ assetChunk : List String,
      ((chunks MAX_ACCOUNTS sorted).map fun memberChunk => (assetChunk, memberChunk)).flatMap
        requested = sorted.flatMap fun member => assetChunk.map fun assetSlug =>
          (member, assetSlug) := by
    intro assetChunk
    rw [List.flatMap_map]
    exact flatMap_chunks (show 0 < MAX_ACCOUNTS by decide) sorted fun member =>
      assetChunk.map fun assetSlug => (member, assetSlug)
  have hrequired : ∀ member ∈ sorted, ((chunks MAX_TOKENS assetSlugs).flatMap fun assetChunk =>
      assetChunk.map fun assetSlug => (member, assetSlug)) = required registry member := by
    intro member hmember
    rw [required, h member (hsort.mem_iff.mp hmember), hassets]
    simp only [List.map_eq_flatMap]
    exact flatMap_chunks (show 0 < MAX_TOKENS by decide) _ _
  rw [List.flatMap_assoc]
  simp only [hmembers]
  calc ((chunks MAX_TOKENS assetSlugs).flatMap fun assetChunk => sorted.flatMap fun member =>
        assetChunk.map fun assetSlug => (member, assetSlug))
      |>.Perm (sorted.flatMap fun member => (chunks MAX_TOKENS assetSlugs).flatMap fun assetChunk =>
        assetChunk.map fun assetSlug => (member, assetSlug)) := flatMap_comm_perm _ _ _
    _ = sorted.flatMap (required registry) := List.flatMap_congr hrequired
    _ |>.Perm (members.flatMap (required registry)) := hsort.flatMap_right _

/-- The batches ask for everything that is required, and for nothing twice. -/
lemma requested_batches (members : List WorkspaceMemberAddress) :
    ((batches registry members).flatMap requested).Perm (members.flatMap (required registry)) := by
  rw [batches, List.flatMap_assoc]
  have hgroups : ((groups WorkspaceMemberAddress.networkSlug members).flatMap fun group =>
        (networkBatches registry group).flatMap requested).Perm
      ((groups WorkspaceMemberAddress.networkSlug members).flatMap fun group =>
        group.2.flatMap (required registry)) := by
    refine List.Perm.flatMap_left _ fun group hgroup => ?_
    refine requested_networkBatches registry group.1 fun member hmember => ?_
    rw [(mem_groups _ hgroup).2] at hmember
    simpa using (List.mem_filter.mp hmember).2
  refine hgroups.trans ?_
  rw [← List.flatMap_assoc]
  exact (flatMap_groups_perm members).flatMap_right _

variable {registry}

/-! ### Every command is accepted -/

/-- A batch is within the limits of a command: some of the active assets of a network, and some
of the members. -/
structure WithinLimits (registry : CanonicalRegistry) (members : List WorkspaceMemberAddress)
    (batch : Batch) : Prop where
  assetsSize : batch.1 ≠ [] ∧ batch.1.length ≤ MAX_TOKENS
  membersSize : batch.2 ≠ [] ∧ batch.2.length ≤ MAX_ACCOUNTS
  mapped : ∃ networkSlug, batch.1.Sublist (registry.activeAssetSlugsMappedToNetwork networkSlug)
  chosen : batch.2.Subperm members

lemma withinLimits {members : List WorkspaceMemberAddress} {batch : Batch}
    (h : batch ∈ batches registry members) : WithinLimits registry members batch := by
  obtain ⟨⟨networkSlug, group⟩, hgroup, hbatch⟩ := List.mem_flatMap.mp h
  rw [networkBatches_eq] at hbatch
  obtain ⟨assetChunk, hassets, hbatch⟩ := List.mem_flatMap.mp hbatch
  obtain ⟨memberChunk, hmembers, rfl⟩ := List.mem_map.mp hbatch
  obtain ⟨hassetsNe, hassetsSize, hassetsSub⟩ := mem_chunks (by decide) hassets
  obtain ⟨hmembersNe, hmembersSize, hmembersSub⟩ := mem_chunks (by decide) hmembers
  refine ⟨⟨hassetsNe, hassetsSize⟩, ⟨hmembersNe, hmembersSize⟩, ⟨networkSlug, hassetsSub⟩, ?_⟩
  have hgroup : group = members.filter fun member => member.networkSlug = networkSlug :=
    (mem_groups _ hgroup).2
  have hsub : group.Sublist members := hgroup ▸ List.filter_sublist
  exact hmembersSub.subperm.trans ((List.perm_insertionSort _ _).subperm.trans hsub.subperm)

lemma nodup_activeAssetSlugsMappedToNetwork (hindexed : Indexed registry) (networkSlug : String) :
    (registry.activeAssetSlugsMappedToNetwork networkSlug).Nodup := by
  unfold CanonicalRegistry.activeAssetSlugsMappedToNetwork
  split
  · exact List.nodup_nil
  · rename_i network _
    have hslugs : ((registry.activeAssetIndexes.map registry.assets.get).map (·.slug)).Nodup := by
      rw [List.map_map]
      refine hindexed.activeNodup.map_on fun left _ right _ heq => ?_
      have hleft := (hindexed.asset _ left).mpr rfl
      have hright := (hindexed.asset _ right).mpr rfl
      simp only [Function.comp_apply] at heq
      rw [heq, hright, Option.some.injEq] at hleft
      exact hleft.symm
    exact hslugs.sublist (List.filter_sublist.map _)

/-- Members that differ without regard to case differ as accounts. -/
lemma nodup_identity {members : List WorkspaceMemberAddress}
    (hdistinct : (members.map memberKey).Nodup) :
    ((members.map accountOf).map identity).Nodup := by
  refine List.Nodup.of_map (fun key : String × String => (toAsciiLowercase key.1, key.2)) ?_
  rw [List.map_map, List.map_map]
  exact hdistinct

lemma exists_planBatch (hindexed : Indexed registry) {members : List WorkspaceMemberAddress}
    (hvalid : ∀ member ∈ members, isEvmAddress member.address = true)
    (hdistinct : ((members.map accountOf).map identity).Nodup) {batch : Batch}
    (h : batch ∈ batches registry members) : ∃ command, planBatch batch = .ok command := by
  obtain ⟨hassets, hmembers, ⟨networkSlug, hmapped⟩, hchosen⟩ := withinLimits h
  refine exists_tryNew (by simpa using hmembers.1) (by simpa using hmembers.2) hassets.1 hassets.2
    (by decide) ?_ ?_ ((nodup_activeAssetSlugsMappedToNetwork hindexed networkSlug).sublist hmapped)
  · intro account haccount
    obtain ⟨member, hmember, rfl⟩ := List.mem_map.mp haccount
    exact hvalid member (hchosen.subset hmember)
  · obtain ⟨chosen, hperm, hsub⟩ := hchosen
    refine (((hperm.map accountOf).map identity).nodup_iff).mp ?_
    exact hdistinct.sublist ((hsub.map _).map _)

lemma exists_plan (hindexed : Indexed registry) {members : List WorkspaceMemberAddress}
    (hvalid : ∀ member ∈ members, isEvmAddress member.address = true)
    (hdistinct : ((members.map accountOf).map identity).Nodup) :
    ∃ commands, plan registry members = .ok commands :=
  exists_mapM_eq_ok fun _ => exists_planBatch hindexed hvalid hdistinct

end

end MotherApi.PortfolioPlan
