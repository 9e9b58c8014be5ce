import MotherApi.Portfolio

/-!
How a portfolio is put together.

The loop over the commands fills a collection for every member, and the loop over the members
empties them. Both succeed under conditions that do not depend on the order: every outcome fits
its command, and no two members have one key. What they leave is said without the loops.
-/

namespace MotherApi.PortfolioComposition

open MotherApi.Lib.Fallible MotherApi.Lib.Tables MotherApi.Lib.Groups MotherApi.Strings
open MotherApi.Registry MotherApi.BalanceCommand MotherApi.BalanceResponse MotherApi.BalanceService
open MotherApi.Portfolio

/-! ### What the commands add -/

/-- The additions of a command and its outcome, if all of them fit. -/
def gather (lookup : MemberLookup) (resolution : GetBalancesCommand × CommandResolution) :
    Except WorkspacePortfolioResolverError (List Addition) := do
  let list ← additions lookup resolution
  list.mapM id

/-- The contributions that a list of additions has for a key, in their order. -/
def addedFor (key : MemberKey) (list : List Addition) : List PortfolioContribution :=
  (list.filter fun addition => memberKey addition.1 = key).flatMap Prod.snd

lemma addedFor_append (key : MemberKey) (list list' : List Addition) :
    addedFor key (list ++ list') = addedFor key list ++ addedFor key list' := by
  simp [addedFor]

/-- Collections with the contributions of a list of additions behind their own. -/
def extend (collections : Collections) (list : List Addition) : Collections := fun key =>
  (collections key).map (· ++ addedFor key list)

lemma extend_nil (collections : Collections) : extend collections [] = collections := by
  funext key
  cases h : collections key <;> simp [extend, addedFor, h]

lemma extend_extend (collections : Collections) (list list' : List Addition) :
    extend (extend collections list) list' = extend collections (list ++ list') := by
  funext key
  cases h : collections key <;> simp [extend, addedFor_append, h]

lemma isSome_extend (collections : Collections) (list : List Addition) (key : MemberKey) :
    (extend collections list key).isSome = (collections key).isSome := by
  simp [extend]

lemma update_eq_extend {collections : Collections} {member : WorkspaceMemberAddress}
    {existing contributions : List PortfolioContribution}
    (h : collections (memberKey member) = some existing) :
    Function.update collections (memberKey member) (some (existing ++ contributions)) =
      extend collections [(member, contributions)] := by
  funext key
  by_cases hkey : key = memberKey member
  · subst hkey
    simp [extend, addedFor, h]
  · rw [Function.update_of_ne hkey]
    cases hold : collections key <;> simp [extend, addedFor, hold, Ne.symm hkey]

/-- Pushing succeeds exactly if every addition fits and its member has a collection. -/
lemma foldlM_push_eq_ok {list : List (Except WorkspacePortfolioResolverError Addition)}
    {collections collections' : Collections} :
    list.foldlM push collections = .ok collections' ↔
      ∃ added, list.mapM id = .ok added ∧
        (∀ addition ∈ added, (collections (memberKey addition.1)).isSome = true) ∧
        collections' = extend collections added := by
  induction list generalizing collections with
  | nil =>
    simp only [List.foldlM_nil, List.mapM_nil, pure, Except.pure, Except.ok.injEq,
      exists_eq_left', List.not_mem_nil, false_imp_iff, implies_true, true_and, extend_nil]
    exact eq_comm
  | cons addition list ih =>
    rw [List.foldlM_cons, List.mapM_cons]
    cases addition with
    | error error => simp [push, lift, bind, Except.bind, id]
    | ok addition =>
      obtain ⟨member, contributions⟩ := addition
      simp only [bind_eq_ok, push, lift_eq_ok, expect_eq_ok, id, pure, Except.pure,
        Except.ok.injEq]
      constructor
      · rintro ⟨pushed, ⟨_, rfl, existing, hexisting, rfl⟩, h⟩
        obtain ⟨added, hadded, hsome, rfl⟩ := ih.mp h
        rw [update_eq_extend hexisting] at hsome ⊢
        refine ⟨_, ⟨_, rfl, added, hadded, rfl⟩, ?_, ?_⟩
        · intro addition haddition
          rcases List.mem_cons.mp haddition with rfl | haddition
          · rw [hexisting, Option.isSome_some]
          · rw [← isSome_extend collections [(member, contributions)]]
            exact hsome addition haddition
        · rw [extend_extend]
          rfl
      · rintro ⟨_, ⟨_, rfl, added, hadded, rfl⟩, hsome, rfl⟩
        obtain ⟨existing, hexisting⟩ := Option.isSome_iff_exists.mp
          (hsome (member, contributions) List.mem_cons_self)
        refine ⟨_, ⟨_, rfl, existing, hexisting, rfl⟩, ih.mpr ⟨added, hadded, ?_, ?_⟩⟩
        · intro addition haddition
          rw [update_eq_extend hexisting, isSome_extend]
          exact hsome addition (List.mem_cons_of_mem _ haddition)
        · rw [update_eq_extend hexisting, extend_extend]
          rfl

/-- The loop over the commands succeeds exactly if every outcome fits its command. -/
lemma foldlM_appendOutcome_eq_ok {lookup : MemberLookup}
    {resolutions : List (GetBalancesCommand × CommandResolution)}
    {collections collections' : Collections} :
    resolutions.foldlM (appendOutcome lookup) collections = .ok collections' ↔
      ∃ lists, resolutions.mapM (gather lookup) = .ok lists ∧
        (∀ addition ∈ lists.flatten, (collections (memberKey addition.1)).isSome = true) ∧
        collections' = extend collections lists.flatten := by
  induction resolutions generalizing collections with
  | nil =>
    simp only [List.foldlM_nil, List.mapM_nil, pure, Except.pure, Except.ok.injEq,
      exists_eq_left', List.flatten_nil, List.not_mem_nil, false_imp_iff, implies_true, true_and,
      extend_nil]
    exact eq_comm
  | cons resolution resolutions ih =>
    rw [List.foldlM_cons, List.mapM_cons]
    simp only [bind_eq_ok, appendOutcome, gather, lift_eq_ok, foldlM_push_eq_ok, pure, Except.pure,
      Except.ok.injEq]
    constructor
    · rintro ⟨pushed, ⟨list, hlist, added, hadded, hfirst, rfl⟩, h⟩
      obtain ⟨lists, hlists, hsome, rfl⟩ := ih.mp h
      refine ⟨_, ⟨added, ⟨list, hlist, hadded⟩, lists, hlists, rfl⟩, ?_, ?_⟩
      · intro addition haddition
        rcases List.mem_append.mp haddition with haddition | haddition
        · exact hfirst addition haddition
        · rw [← isSome_extend collections added]
          exact hsome addition haddition
      · rw [extend_extend]
        rfl
    · rintro ⟨_, ⟨added, ⟨list, hlist, hadded⟩, lists, hlists, rfl⟩, hsome, rfl⟩
      refine ⟨_, ⟨list, hlist, added, hadded, ?_, rfl⟩, ih.mpr ⟨lists, hlists, ?_, ?_⟩⟩
      · exact fun addition haddition => hsome addition (List.mem_append_left _ haddition)
      · intro addition haddition
        rw [isSome_extend]
        exact hsome addition (List.mem_append_right _ haddition)
      · rw [extend_extend]
        rfl

/-! ### What the members get -/

/-- The contributions of a member, sorted. -/
def contributionsOf (collections : Collections) (member : WorkspaceMemberAddress) :
    List PortfolioContribution :=
  ((collections (memberKey member)).getD []).insertionSort fun left right =>
    contributionOrder left ≤ contributionOrder right

def observationOf (collections : Collections) (member : WorkspaceMemberAddress) :
    MemberPortfolioObservation :=
  ⟨member, contributionsOf collections member, balanceStatus (contributionsOf collections member)⟩

lemma memberKey_ne {member other : WorkspaceMemberAddress} {members : List WorkspaceMemberAddress}
    (hnew : memberKey member ∉ members.map memberKey) (hother : other ∈ members) :
    memberKey other ≠ memberKey member := by
  intro heq
  exact hnew (heq ▸ List.mem_map_of_mem hother)

lemma contributionsOf_update {collections : Collections} {member other : WorkspaceMemberAddress}
    (h : memberKey other ≠ memberKey member) :
    contributionsOf (Function.update collections (memberKey member) none) other =
      contributionsOf collections other := by
  rw [contributionsOf, Function.update_of_ne h, contributionsOf]

lemma observe_eq_ok {state state' : Observing} {member : WorkspaceMemberAddress} :
    observe state member = .ok state' ↔
      (state.collections (memberKey member)).isSome = true ∧
        state' = ⟨Function.update state.collections (memberKey member) none,
          state.allContributions ++ contributionsOf state.collections member,
          state.memberObservations ++ [observationOf state.collections member]⟩ := by
  unfold observe observationOf contributionsOf
  rw [bind_eq_ok]
  cases h : state.collections (memberKey member) <;>
    simp [expect, pure, Except.pure, eq_comm]

/-- The loop over the members succeeds exactly if no two have one key and each has a
collection. -/
lemma foldlM_observe_eq_ok {members : List WorkspaceMemberAddress} {state state' : Observing} :
    members.foldlM observe state = .ok state' ↔
      (members.map memberKey).Nodup ∧
        (∀ member ∈ members, (state.collections (memberKey member)).isSome = true) ∧
        state' = ⟨members.foldl (fun collections member =>
            Function.update collections (memberKey member) none) state.collections,
          state.allContributions ++ members.flatMap (contributionsOf state.collections),
          state.memberObservations ++ members.map (observationOf state.collections)⟩ := by
  induction members generalizing state with
  | nil =>
    simp only [List.foldlM_nil, pure, Except.pure, Except.ok.injEq, List.map_nil, List.nodup_nil,
      List.not_mem_nil, false_imp_iff, implies_true, true_and, List.foldl_nil, List.flatMap_nil,
      List.append_nil]
    exact eq_comm
  | cons member members ih =>
    rw [List.foldlM_cons, bind_eq_ok]
    simp only [observe_eq_ok, ih, List.map_cons, List.nodup_cons, List.foldl_cons,
      List.flatMap_cons, List.mem_cons, forall_eq_or_imp]
    -- the collections of the other members are the same after the first is emptied
    have hsame : memberKey member ∉ members.map memberKey →
        members.flatMap
            (contributionsOf (Function.update state.collections (memberKey member) none)) =
            members.flatMap (contributionsOf state.collections) ∧
          members.map (observationOf (Function.update state.collections (memberKey member) none)) =
            members.map (observationOf state.collections) := by
      intro hnew
      refine ⟨List.flatMap_congr fun other hother =>
        contributionsOf_update (memberKey_ne hnew hother),
        List.map_congr_left fun other hother => ?_⟩
      rw [observationOf, contributionsOf_update (memberKey_ne hnew hother), observationOf]
    constructor
    · rintro ⟨_, ⟨hsome, rfl⟩, hnodup, hcollections, rfl⟩
      have hnew : memberKey member ∉ members.map memberKey := by
        intro hmem
        obtain ⟨other, hother, heq⟩ := List.mem_map.mp hmem
        have := hcollections other hother
        simp [heq] at this
      obtain ⟨hall, hobservations⟩ := hsame hnew
      refine ⟨⟨hnew, hnodup⟩, ⟨hsome, fun other hother => ?_⟩, ?_⟩
      · have := hcollections other hother
        simp only at this
        rwa [Function.update_of_ne (memberKey_ne hnew hother)] at this
      · simp only [hall, hobservations, List.append_assoc, List.singleton_append]
    · rintro ⟨⟨hnew, hnodup⟩, ⟨hsome, hcollections⟩, rfl⟩
      obtain ⟨hall, hobservations⟩ := hsame hnew
      refine ⟨_, ⟨hsome, rfl⟩, hnodup, fun other hother => ?_, ?_⟩
      · simp only
        rw [Function.update_of_ne (memberKey_ne hnew hother)]
        exact hcollections other hother
      · simp only [hall, hobservations, List.append_assoc, List.singleton_append]

/-! ### The whole composition -/

/-- The contributions of a member, from all that the commands added. -/
def memberContributions (added : List Addition) (member : WorkspaceMemberAddress) :
    List PortfolioContribution :=
  (addedFor (memberKey member) added).insertionSort fun left right =>
    contributionOrder left ≤ contributionOrder right

def memberObservation (added : List Addition) (member : WorkspaceMemberAddress) :
    MemberPortfolioObservation :=
  ⟨member, memberContributions added member, balanceStatus (memberContributions added member)⟩

section

variable {members : List WorkspaceMemberAddress}

lemma memberLookup_eq_some {key : MemberKey} {member : WorkspaceMemberAddress}
    (h : memberLookup members key = some member) : member ∈ members ∧ memberKey member = key := by
  obtain ⟨other, hother, heq⟩ := List.mem_map.mp (mem_of_ofPairs h)
  simp only [Prod.mk.injEq] at heq
  obtain ⟨rfl, rfl⟩ := heq
  exact ⟨hother, rfl⟩

lemma gather_mem {resolution : GetBalancesCommand × CommandResolution} {added : List Addition}
    (h : gather (memberLookup members) resolution = .ok added) {addition : Addition}
    (haddition : addition ∈ added) : addition.1 ∈ members := by
  obtain ⟨list, hlist, hadded⟩ := bind_eq_ok.mp h
  obtain ⟨fit, hfit, heq⟩ := mem_of_mapM hadded haddition
  simp only [id] at heq
  subst heq
  obtain ⟨command, outcome⟩ := resolution
  simp only [additions] at hlist
  split at hlist
  · cases hlist
  · cases outcome with
    | resolved result =>
      simp only at hlist
      split at hlist
      · cases hlist
      · cases hlist
        obtain ⟨⟨expected, actual⟩, -, hfit⟩ := List.mem_map.mp hfit
        rw [balanceAddition] at hfit
        split at hfit
        · cases hfit
        · split at hfit
          · cases hfit
          · rename_i member hmember
            cases hfit
            exact (memberLookup_eq_some hmember).1
    | unavailable =>
      cases hlist
      obtain ⟨account, -, hfit⟩ := List.mem_map.mp hfit
      rw [unavailableAddition] at hfit
      split at hfit
      · cases hfit
      · rename_i member hmember
        cases hfit
        exact (memberLookup_eq_some hmember).1

lemma emptyCollections_eq {key : MemberKey} (h : key ∈ members.map memberKey) :
    emptyCollections members key = some [] := by
  obtain ⟨contributions, hfound⟩ : ∃ contributions, emptyCollections members key =
      some contributions := exists_ofPairs (by simpa using h)
  obtain ⟨member, -, heq⟩ := List.mem_map.mp (mem_of_ofPairs hfound)
  simp only [Prod.mk.injEq] at heq
  rw [hfound, ← heq.2]

lemma extend_emptyCollections {added : List Addition} {member : WorkspaceMemberAddress}
    (h : member ∈ members) :
    extend (emptyCollections members) added (memberKey member) =
      some (addedFor (memberKey member) added) := by
  rw [extend, emptyCollections_eq (List.mem_map_of_mem h), Option.map_some, List.nil_append]

lemma contributionsOf_extend {added : List Addition} {member : WorkspaceMemberAddress}
    (h : member ∈ members) :
    contributionsOf (extend (emptyCollections members) added) member =
      memberContributions added member := by
  rw [contributionsOf, extend_emptyCollections h, Option.getD_some, memberContributions]

/-- **Composing succeeds exactly if** there is an outcome for every command, every outcome fits
its command, no two members have one key, and the contributions of the members can be
summarized. -/
theorem compose_eq_ok {registry : CanonicalRegistry} {commands : List GetBalancesCommand}
    {outcomes : List CommandResolution} {portfolio : CurrentWorkspacePortfolio} :
    compose registry members commands outcomes = .ok portfolio ↔
      commands.length = outcomes.length ∧ (members.map memberKey).Nodup ∧
        ∃ lists, (commands.zip outcomes).mapM (gather (memberLookup (sortMembers members))) =
            .ok lists ∧
          ∃ collections, summarize registry
            ⟨collections, (sortMembers members).flatMap (memberContributions lists.flatten),
              (sortMembers members).map (memberObservation lists.flatten)⟩ = .ok portfolio := by
  have hkeys : (members.map memberKey).Nodup ↔ ((sortMembers members).map memberKey).Nodup :=
    (((List.perm_insertionSort _ members).map memberKey).nodup_iff).symm
  rw [hkeys]
  unfold compose
  by_cases hlength : commands.length = outcomes.length
  swap
  · simp [hlength]
  rw [if_neg (not_not.mpr hlength)]
  simp only [hlength, true_and]
  generalize sortMembers members = members
  have hcontributions : ∀ added, members.flatMap
        (contributionsOf (extend (emptyCollections members) added)) =
      members.flatMap (memberContributions added) := fun added =>
    List.flatMap_congr fun member hmember => contributionsOf_extend hmember
  have hobservations : ∀ added, members.map
        (observationOf (extend (emptyCollections members) added)) =
      members.map (memberObservation added) := by
    intro added
    refine List.map_congr_left fun member hmember => ?_
    rw [observationOf, contributionsOf_extend hmember, memberObservation]
  simp only [bind_eq_ok, foldlM_appendOutcome_eq_ok, foldlM_observe_eq_ok]
  constructor
  · rintro ⟨_, ⟨lists, hlists, -, rfl⟩, _, ⟨hnodup, -, rfl⟩, h⟩
    simp only [hcontributions, hobservations, List.nil_append] at h
    exact ⟨hnodup, lists, hlists, _, h⟩
  · rintro ⟨hnodup, lists, hlists, collections, h⟩
    refine ⟨_, ⟨lists, hlists, ?_, rfl⟩, _, ⟨hnodup, ?_, rfl⟩, ?_⟩
    · intro addition haddition
      obtain ⟨added, hadded, haddition⟩ := List.mem_flatten.mp haddition
      obtain ⟨resolution, -, hgather⟩ := mem_of_mapM hlists hadded
      rw [emptyCollections_eq (List.mem_map_of_mem (gather_mem hgather haddition)),
        Option.isSome_some]
    · intro member hmember
      rw [extend_emptyCollections hmember, Option.isSome_some]
    · simp only [hcontributions, hobservations, List.nil_append]
      exact h

end

end MotherApi.PortfolioComposition
