import MotherApi.ApiKeys
import MotherApi.Lib.Distinct

/-!
What holds of API keys and intents, and what a commit keeps of it.

Ids, prefixes and hashes are unique, and a key has its limits and the grants of its kind. An intent
is used for one key and a demo key has one intent, in whose time it was issued. A key is only ever
revoked; an intent that has been used is left; an account that is not active is never active again.
-/

namespace MotherApi.ApiKeyInvariants

open MotherApi.Lib.Distinct MotherApi.CapabilityDoors MotherApi.ApiKeys

/-! ### Grants -/

lemma insertGrants_nil {rows : List AccountGrantRow}
    (h : (rows.map fun row => (row.capabilityId, row.networkScope)).Nodup) :
    insertGrants [] rows = rows := by
  suffices hgeneral : ∀ before, (((before ++ rows).map
      fun row => (row.capabilityId, row.networkScope)).Nodup →
        insertGrants before rows = before ++ rows) by exact hgeneral [] h
  induction rows with
  | nil => exact fun before _ => (List.append_nil before).symm
  | cons row rows ih =>
    intro before hnodup
    have hnew : (before.any fun other => other.capabilityId == row.capabilityId &&
        other.networkScope == row.networkScope) = false := by
      rw [List.any_eq_false]
      intro other hother hsame
      rw [List.map_append, List.map_cons] at hnodup
      have hdisjoint := List.disjoint_of_nodup_append hnodup
      refine hdisjoint (List.mem_map_of_mem hother) (List.mem_cons.mpr (.inl ?_))
      simpa using hsame
    rw [List.append_cons] at hnodup ⊢
    rw [insertGrants, List.foldl_cons, insertGrant, hnew, if_neg Bool.false_ne_true]
    exact ih (List.nodup_cons.mp h).2 (before ++ [row]) hnodup

lemma insertGrants_keyGrants (owner : Owner) :
    insertGrants [] owner.keyGrants = owner.keyGrants := by
  refine insertGrants_nil ?_
  cases owner <;> simp only [Owner.keyGrants] <;> decide

/-- No row is changed, and a row for every network comes in only if there was none. -/
structure Extends (rows rows' : List AccountGrantRow) : Prop where
  keeps : ∀ row ∈ rows, row ∈ rows'
  adds : ∀ row ∈ rows', row ∈ rows ∨ row.networkScope = "*" ∧
    ∀ old ∈ rows, old.capabilityId = row.capabilityId → old.networkScope ≠ "*"

lemma extends_refl (rows : List AccountGrantRow) : Extends rows rows :=
  ⟨fun _ => id, fun _ => .inl⟩

lemma Extends.trans {first second last : List AccountGrantRow} (h : Extends first second)
    (h' : Extends second last) : Extends first last := by
  refine ⟨fun row hrow => h'.keeps row (h.keeps row hrow), fun row hrow => ?_⟩
  rcases h'.adds row hrow with hrow | ⟨hscope, hnone⟩
  · exact h.adds row hrow
  · exact .inr ⟨hscope, fun old hold => hnone old (h.keeps old hold)⟩

lemma extends_insertGrant {rows : List AccountGrantRow} {row : AccountGrantRow}
    (hscope : row.networkScope = "*") : Extends rows (insertGrant rows row) := by
  unfold insertGrant
  split
  · exact extends_refl rows
  rename_i hnew
  refine ⟨fun old hold => List.mem_append_left _ hold, fun other hother => ?_⟩
  rcases List.mem_append.mp hother with hother | hother
  · exact .inl hother
  · rw [List.mem_singleton.mp hother]
    refine .inr ⟨hscope, fun old hold hsame hold' => hnew (List.any_eq_true.mpr ⟨old, hold, ?_⟩)⟩
    rw [hsame, hold', hscope, beq_self_eq_true, beq_self_eq_true, Bool.and_self]

lemma extends_insertGrants {new : List AccountGrantRow}
    (hscope : ∀ row ∈ new, row.networkScope = "*") (rows : List AccountGrantRow) :
    Extends rows (insertGrants rows new) := by
  induction new generalizing rows with
  | nil => exact extends_refl rows
  | cons row new ih =>
    rw [List.forall_mem_cons] at hscope
    exact (extends_insertGrant hscope.1).trans (ih hscope.2 (insertGrant rows row))

lemma extends_newGrants (capabilities : List Capabilities.Capability)
    (rows : List AccountGrantRow) :
    Extends rows (insertGrants rows (newGrants capabilities everyNetwork)) := by
  refine extends_insertGrants (fun row hrow => ?_) rows
  obtain ⟨capability, -, rfl⟩ := List.mem_map.mp hrow
  rfl

/-! ### What can happen -/

/-- What can become of a key. -/
structure Evolves (before after : ApiKey) : Prop where
  same : after = { before with status := after.status, revokedAt := after.revokedAt }
  active : after.status = .active → before.status = .active

/-- What can become of an intent. -/
structure Proceeds (before after : DemoIntent) : Prop where
  same : after = { before with apiKeyId := after.apiKeyId, consumedAt := after.consumedAt }
  used : before.consumedAt ≠ none → after = before

/-- The key is new, and its account is active. -/
structure IsNew (db : Db) (key : ApiKey) : Prop where
  apiKeyId : db.has (.apiKeyId key.apiKeyId) = false
  keyPrefix : db.has (.keyPrefix key.keyPrefix) = false
  keyHash : db.has (.keyHash key.keyHash) = false
  account : ∀ accountId, key.owner = .account accountId → db.accounts accountId = some .active

/-- What a commit can do. -/
structure Changes (db db' : Db) : Prop where
  keys : ∃ change new, db'.keys = db.keys.map change ++ Option.toList new ∧
    (∀ key ∈ db.keys, Evolves key (change key)) ∧ ∀ key ∈ new, IsNew db key
  intents : ∀ intent ∈ db.intents, ∃ after ∈ db'.intents, Proceeds intent after
  accounts : ∀ accountId status, db.accounts accountId = some status → status ≠ .active →
    ∃ status', db'.accounts accountId = some status' ∧ status' ≠ .active
  consumers : ∀ slug consumer, db.consumers slug = some consumer →
    db'.consumers slug = some consumer
  clients : db'.clients = db.clients
  keyGrants : ∀ key ∈ db.keys, db'.keyGrants key.apiKeyId = db.keyGrants key.apiKeyId
  consumerGrants : ∀ slug, Extends (db.consumerGrants slug) (db'.consumerGrants slug)

/-! ### What holds -/

structure KeysSound (db : Db) : Prop where
  apiKeyIds : (db.keys.map (·.apiKeyId)).Nodup
  keyPrefixes : (db.keys.map (·.keyPrefix)).Nodup
  keyHashes : (db.keys.map (·.keyHash)).Nodup
  policies : ∀ key ∈ db.keys, (db.policies key.apiKeyId).isSome = true
  grants : ∀ key ∈ db.keys, db.keyGrants key.apiKeyId = key.owner.keyGrants
  noGrants : ∀ apiKeyId, db.has (.apiKeyId apiKeyId) = false → db.keyGrants apiKeyId = []

/-- The intent was used for the key. -/
structure UsedFor (intent : DemoIntent) (key : ApiKey) : Prop where
  apiKeyId : intent.apiKeyId = some key.apiKeyId
  consumedAt : intent.consumedAt = some key.createdAt
  owner : key.owner = .anonymousDemo
  created : intent.createdAt ≤ key.createdAt
  inTime : key.createdAt < intent.expiresAt
  expiresAt : key.expiresAt = some (key.createdAt + DEMO_KEY_TTL_SECONDS)

structure IntentsSound (db : Db) : Prop where
  secretHashes : (db.intents.map (·.secretHash)).Nodup
  single : ∀ intent ∈ db.intents, ∀ other ∈ db.intents, ∀ apiKeyId,
    intent.apiKeyId = some apiKeyId → other.apiKeyId = some apiKeyId → intent = other
  lasts : ∀ intent ∈ db.intents, intent.expiresAt = intent.createdAt + DEMO_INTENT_TTL_SECONDS
  used : ∀ intent ∈ db.intents, intent.apiKeyId = none ∧ intent.consumedAt = none ∨
    ∃ key ∈ db.keys, UsedFor intent key
  demo : ∀ key ∈ db.keys, key.owner = .anonymousDemo → ∃ intent ∈ db.intents, UsedFor intent key

/-- What holds of the committed data. -/
structure Sound (db : Db) : Prop where
  keys : KeysSound db
  intents : IntentsSound db

section

variable {db db' : Db} {before after : ApiKey}

lemma evolves_refl (key : ApiKey) : Evolves key key := ⟨rfl, id⟩

lemma Evolves.trans {last : ApiKey} (h : Evolves before after) (h' : Evolves after last) :
    Evolves before last := by
  refine ⟨?_, fun hactive => h.active (h'.active hactive)⟩
  rw [h'.same, h.same]

lemma Evolves.apiKeyId (h : Evolves before after) : after.apiKeyId = before.apiKeyId := by
  rw [h.same]

lemma Evolves.owner (h : Evolves before after) : after.owner = before.owner := by
  rw [h.same]

lemma Evolves.keyPrefix (h : Evolves before after) : after.keyPrefix = before.keyPrefix := by
  rw [h.same]

lemma Evolves.keyHash (h : Evolves before after) : after.keyHash = before.keyHash := by
  rw [h.same]

lemma Evolves.expiresAt (h : Evolves before after) : after.expiresAt = before.expiresAt := by
  rw [h.same]

lemma Evolves.createdAt (h : Evolves before after) : after.createdAt = before.createdAt := by
  rw [h.same]

lemma UsedFor.evolves {intent : DemoIntent} (h : UsedFor intent before)
    (hevolves : Evolves before after) : UsedFor intent after where
  apiKeyId := hevolves.apiKeyId ▸ h.apiKeyId
  consumedAt := hevolves.createdAt ▸ h.consumedAt
  owner := hevolves.owner.trans h.owner
  created := hevolves.createdAt ▸ h.created
  inTime := hevolves.createdAt ▸ h.inTime
  expiresAt := by rw [hevolves.expiresAt, hevolves.createdAt, h.expiresAt]

lemma proceeds_refl (intent : DemoIntent) : Proceeds intent intent := ⟨rfl, fun _ => rfl⟩

lemma Proceeds.trans {first second last : DemoIntent} (h : Proceeds first second)
    (h' : Proceeds second last) : Proceeds first last := by
  refine ⟨?_, fun hused => ?_⟩
  · rw [h'.same, h.same]
  · have hsame := h.used hused
    rw [h'.used (hsame ▸ hused), hsame]

lemma KeysSound.eq_of_apiKeyId (h : KeysSound db) (hbefore : before ∈ db.keys)
    (hafter : after ∈ db.keys) (hsame : before.apiKeyId = after.apiKeyId) : before = after :=
  List.inj_on_of_nodup_map h.apiKeyIds hbefore hafter hsame

lemma KeysSound.eq_of_keyHash (h : KeysSound db) (hbefore : before ∈ db.keys)
    (hafter : after ∈ db.keys) (hsame : before.keyHash = after.keyHash) : before = after :=
  List.inj_on_of_nodup_map h.keyHashes hbefore hafter hsame

lemma Changes.mem (h : Changes db db') (hafter : after ∈ db'.keys) :
    (∃ before ∈ db.keys, Evolves before after) ∨ IsNew db after := by
  obtain ⟨change, new, hkeys, hevolves, hnew⟩ := h.keys
  rw [hkeys, List.mem_append] at hafter
  rcases hafter with hafter | hafter
  · obtain ⟨before, hbefore, rfl⟩ := List.mem_map.mp hafter
    exact .inl ⟨before, hbefore, hevolves before hbefore⟩
  · exact .inr (hnew after (Option.mem_toList.mp hafter))

lemma Changes.exists_after (h : Changes db db') (hbefore : before ∈ db.keys) :
    ∃ after ∈ db'.keys, Evolves before after := by
  obtain ⟨change, new, hkeys, hevolves, -⟩ := h.keys
  refine ⟨change before, ?_, hevolves before hbefore⟩
  rw [hkeys]
  exact List.mem_append_left _ (List.mem_map_of_mem hbefore)

end

/-! ### Statements by themselves -/

section

variable {db db' : Db} {change : ApiKey → ApiKey}

lemma map_of_evolves {β : Type} {f : ApiKey → β} (hevolves : ∀ key, Evolves key (change key))
    (hf : ∀ before after, Evolves before after → f after = f before) (keys : List ApiKey) :
    (keys.map change).map f = keys.map f := by
  rw [List.map_map]
  exact List.map_congr_left fun key _ => hf _ _ (hevolves key)

lemma any_of_evolves {β : Type} [BEq β] {f : ApiKey → β}
    (hevolves : ∀ key, Evolves key (change key))
    (hf : ∀ before after, Evolves before after → f after = f before) (keys : List ApiKey) (b : β) :
    (keys.map change).any (f · == b) = keys.any (f · == b) := by
  rw [List.any_map]
  congr 1
  funext key
  rw [Function.comp_apply, hf _ _ (hevolves key)]

lemma has_changeKeys (hevolves : ∀ key, Evolves key (change key)) (key : Key) :
    ({ db with keys := db.keys.map change } : Db).has key = db.has key := by
  cases key with
  | apiKeyId => exact any_of_evolves hevolves (fun _ _ h => h.apiKeyId) _ _
  | keyPrefix => exact any_of_evolves hevolves (fun _ _ h => h.keyPrefix) _ _
  | keyHash => exact any_of_evolves hevolves (fun _ _ h => h.keyHash) _ _
  | _ => rfl

lemma sound_changeKeys (h : Sound db) (hevolves : ∀ key, Evolves key (change key)) :
    Sound { db with keys := db.keys.map change } := by
  refine ⟨⟨?_, ?_, ?_, ?_, ?_, ?_⟩, ⟨h.intents.secretHashes, h.intents.single, h.intents.lasts,
    ?_, ?_⟩⟩
  · rw [map_of_evolves hevolves fun _ _ h => h.apiKeyId]
    exact h.keys.apiKeyIds
  · rw [map_of_evolves hevolves fun _ _ h => h.keyPrefix]
    exact h.keys.keyPrefixes
  · rw [map_of_evolves hevolves fun _ _ h => h.keyHash]
    exact h.keys.keyHashes
  · intro key hkey
    obtain ⟨before, hbefore, rfl⟩ := List.mem_map.mp hkey
    rw [(hevolves before).apiKeyId]
    exact h.keys.policies before hbefore
  · intro key hkey
    obtain ⟨before, hbefore, rfl⟩ := List.mem_map.mp hkey
    rw [(hevolves before).apiKeyId, (hevolves before).owner]
    exact h.keys.grants before hbefore
  · intro apiKeyId hnone
    rw [has_changeKeys hevolves] at hnone
    exact h.keys.noGrants apiKeyId hnone
  · intro intent hintent
    rcases h.intents.used intent hintent with hunused | ⟨key, hkey, hused⟩
    · exact .inl hunused
    · exact .inr ⟨change key, List.mem_map_of_mem hkey, hused.evolves (hevolves key)⟩
  · intro key hkey howner
    obtain ⟨before, hbefore, rfl⟩ := List.mem_map.mp hkey
    rw [(hevolves before).owner] at howner
    obtain ⟨intent, hintent, hused⟩ := h.intents.demo before hbefore howner
    exact ⟨intent, hintent, hused.evolves (hevolves before)⟩

lemma changes_changeKeys (hevolves : ∀ key, Evolves key (change key)) :
    Changes db { db with keys := db.keys.map change } where
  keys := ⟨change, none, (List.append_nil _).symm, fun key _ => hevolves key, by simp⟩
  intents intent hintent := ⟨intent, hintent, proceeds_refl intent⟩
  accounts _ status hstatus hne := ⟨status, hstatus, hne⟩
  consumers _ _ := id
  clients := rfl
  keyGrants _ _ := rfl
  consumerGrants _ := extends_refl _

lemma changes_refl (db : Db) : Changes db db := by
  have h : Changes db { db with keys := db.keys.map fun key => key } :=
    changes_changeKeys evolves_refl
  rwa [List.map_id'] at h

/-- A revocation changes the keys one by one, or fails. -/
lemma exists_change_revokeByPrefix (keyPrefix : String) (now : ℕ) (db : Db) :
    ∃ change, revokeByPrefix keyPrefix now db = { db with keys := db.keys.map change } ∧
      ∀ key, Evolves key (change key) := by
  unfold revokeByPrefix
  dsimp only
  split
  · refine ⟨_, rfl, fun key => ?_⟩
    split
    · exact ⟨rfl, by simp⟩
    · exact evolves_refl key
  · exact ⟨id, by rw [List.map_id], evolves_refl⟩

lemma sound_createDemoIntent (h : Sound db) (secretHash now : ℕ) :
    Sound (createDemoIntent secretHash now db) := by
  unfold createDemoIntent
  split
  · exact h
  rename_i hnew
  refine ⟨⟨h.keys.apiKeyIds, h.keys.keyPrefixes, h.keys.keyHashes, h.keys.policies, h.keys.grants,
    h.keys.noGrants⟩, ⟨?_, ?_, ?_, ?_, ?_⟩⟩
  · refine nodup_map_concat h.intents.secretHashes fun intent hintent hsame => hnew ?_
    exact List.any_eq_true.mpr ⟨intent, hintent, beq_iff_eq.mpr hsame⟩
  · intro intent hintent other hother apiKeyId hid hid'
    rcases List.mem_append.mp hintent with hintent | hintent
    · rcases List.mem_append.mp hother with hother | hother
      · exact h.intents.single intent hintent other hother apiKeyId hid hid'
      · rw [List.mem_singleton.mp hother] at hid'
        cases hid'
    · rw [List.mem_singleton.mp hintent] at hid
      cases hid
  · intro intent hintent
    rcases List.mem_append.mp hintent with hintent | hintent
    · exact h.intents.lasts intent hintent
    · rw [List.mem_singleton.mp hintent]
  · intro intent hintent
    rcases List.mem_append.mp hintent with hintent | hintent
    · exact h.intents.used intent hintent
    · rw [List.mem_singleton.mp hintent]
      exact .inl ⟨rfl, rfl⟩
  · intro key hkey howner
    obtain ⟨intent, hintent, hused⟩ := h.intents.demo key hkey howner
    exact ⟨intent, List.mem_append_left _ hintent, hused⟩

lemma changes_createDemoIntent (secretHash now : ℕ) (db : Db) :
    Changes db (createDemoIntent secretHash now db) := by
  have hsame := changes_refl db
  unfold createDemoIntent
  split
  · exact hsame
  · exact ⟨hsame.keys, fun intent hintent => ⟨intent, List.mem_append_left _ hintent,
      proceeds_refl intent⟩, hsame.accounts, hsame.consumers, rfl, hsame.keyGrants,
      hsame.consumerGrants⟩

end

/-! ### Transactions -/

/-- What a request has found, in the row that it holds. -/
def Owned (db : Db) (held : Key → Prop) (now : ℕ) : Request → Prop
  | .issueApiKey slug _ _ _ => held (.consumer slug)
  | .issueAccountApiKey accountId _ =>
    held (.account accountId) ∧ db.accounts accountId = some .active
  | .consumeDemoIntentAndIssueKey secretHash _ _ _ =>
    held (.intent secretHash) ∧ ∃ intent ∈ db.intents, intent.isOpen secretHash now = true
  | .setAccountStatus accountId _ =>
    held (.account accountId) ∧ db.has (.account accountId) = true
  | _ => True

/-- The entry is held, and nothing is there. -/
def Vacant (db : Db) (held : Key → Prop) (key : Key) : Prop := held key ∧ db.has key = false

/-- What the last statement has found. -/
def MayFinish (db : Db) (now : ℕ) : Request → Prop
  | .issueApiKey _ _ _ key | .issueAccountApiKey _ key => key.policy.isSome = true
  | .consumeDemoIntentAndIssueKey secretHash _ _ _ => db.mayConsume secretHash now = true
  | _ => True

/-- What a commit relies on. -/
structure Commits (db : Db) (held : Key → Prop) (now : ℕ) (request : Request) : Prop where
  administrative : request.isAdministrative = true
  owned : Owned db held now request
  entries : ∀ key ∈ request.entries, Vacant db held key
  mayFinish : MayFinish db now request

section

variable {db db' : Db} {now : ℕ} {owner : Owner} {key : NewKey}

lemma insertKey_keys :
    (insertKey now owner key db).keys = db.keys ++ [newApiKey now owner key] := rfl

lemma insertKey_policies : (insertKey now owner key db).policies =
    Function.update db.policies key.apiKeyId key.policy := rfl

lemma insertKey_keyGrants : (insertKey now owner key db).keyGrants =
    Function.update db.keyGrants key.apiKeyId
      (insertGrants (db.keyGrants key.apiKeyId) owner.keyGrants) := rfl

lemma has_insertKey {entry : Key}
    (hne : entry ∉ [Key.apiKeyId key.apiKeyId, .keyPrefix key.keyPrefix, .keyHash key.keyHash]) :
    (insertKey now owner key db).has entry = db.has entry := by
  simp only [List.mem_cons, List.not_mem_nil, or_false, not_or] at hne
  obtain ⟨hid, hprefix, hhash⟩ := hne
  cases entry with
  | apiKeyId apiKeyId =>
    have hid : (key.apiKeyId == apiKeyId) = false := by
      rw [beq_eq_false_iff_ne]
      exact fun heq => hid (congrArg Key.apiKeyId heq.symm)
    simp [Db.has, insertKey_keys, newApiKey, hid]
  | keyPrefix keyPrefix =>
    have hprefix : (key.keyPrefix == keyPrefix) = false := by
      rw [beq_eq_false_iff_ne]
      exact fun heq => hprefix (congrArg Key.keyPrefix heq.symm)
    simp [Db.has, insertKey_keys, newApiKey, hprefix]
  | keyHash keyHash =>
    have hhash : (key.keyHash == keyHash) = false := by
      rw [beq_eq_false_iff_ne]
      exact fun heq => hhash (congrArg Key.keyHash heq.symm)
    simp [Db.has, insertKey_keys, newApiKey, hhash]
  | _ => rfl

lemma IsNew.ne {new : ApiKey} (h : IsNew db new) {old : ApiKey} (hold : old ∈ db.keys) :
    old.apiKeyId ≠ new.apiKeyId ∧ old.keyPrefix ≠ new.keyPrefix ∧ old.keyHash ≠ new.keyHash := by
  have hid := List.any_eq_false.mp h.apiKeyId old hold
  have hprefix := List.any_eq_false.mp h.keyPrefix old hold
  have hhash := List.any_eq_false.mp h.keyHash old hold
  simp only [beq_iff_eq] at hid hprefix hhash
  exact ⟨hid, hprefix, hhash⟩

/-- **The insertion of a key**, of which nothing is there. -/
lemma keysSound_insertKey (h : KeysSound db) (hkeys : db'.keys = db.keys)
    (hpolicies : db'.policies = db.policies) (hgrants : db'.keyGrants = db.keyGrants)
    (hnew : IsNew db (newApiKey now owner key)) (hpolicy : key.policy.isSome = true) :
    KeysSound (insertKey now owner key db') := by
  have hnone : db.keyGrants key.apiKeyId = [] := h.noGrants _ hnew.apiKeyId
  have hne {other : ApiKey} (hother : other ∈ db.keys) : other.apiKeyId ≠ key.apiKeyId :=
    (hnew.ne hother).1
  have hmem {other : ApiKey} (hother : other ∈ (insertKey now owner key db').keys) :
      other ∈ db.keys ∨ other = newApiKey now owner key := by
    rw [insertKey_keys, hkeys] at hother
    simpa using hother
  refine ⟨?_, ?_, ?_, ?_, ?_, ?_⟩
  · rw [insertKey_keys, hkeys]
    exact nodup_map_concat h.apiKeyIds fun other hother => (hnew.ne hother).1
  · rw [insertKey_keys, hkeys]
    exact nodup_map_concat h.keyPrefixes fun other hother => (hnew.ne hother).2.1
  · rw [insertKey_keys, hkeys]
    exact nodup_map_concat h.keyHashes fun other hother => (hnew.ne hother).2.2
  · intro other hother
    rcases hmem hother with hother | rfl
    · rw [insertKey_policies, Function.update_of_ne (hne hother), hpolicies]
      exact h.policies other hother
    · rw [insertKey_policies, newApiKey, Function.update_self]
      exact hpolicy
  · intro other hother
    rcases hmem hother with hother | rfl
    · rw [insertKey_keyGrants, Function.update_of_ne (hne hother), hgrants]
      exact h.grants other hother
    · rw [insertKey_keyGrants, newApiKey, Function.update_self, hgrants, hnone]
      exact insertGrants_keyGrants owner
  · intro apiKeyId hfree
    rw [Db.has, insertKey_keys, hkeys, List.any_append, Bool.or_eq_false_iff] at hfree
    have hother : apiKeyId ≠ key.apiKeyId := by
      rintro rfl
      simp [newApiKey] at hfree
    rw [insertKey_keyGrants, Function.update_of_ne hother, hgrants]
    exact h.noGrants apiKeyId hfree.1

lemma intentsSound_insertKey (h : IntentsSound db) (hkeys : db'.keys = db.keys)
    (hintents : db'.intents = db.intents) (howner : owner ≠ .anonymousDemo) :
    IntentsSound (insertKey now owner key db') := by
  have hsame : (insertKey now owner key db').intents = db.intents := hintents
  have hinserted : (insertKey now owner key db').keys = db.keys ++ [newApiKey now owner key] := by
    rw [insertKey_keys, hkeys]
  refine ⟨hsame ▸ h.secretHashes, hsame ▸ h.single, hsame ▸ h.lasts, ?_, ?_⟩
  · rw [hsame, hinserted]
    intro intent hintent
    refine (h.used intent hintent).imp_right ?_
    rintro ⟨used, hused, husedFor⟩
    exact ⟨used, List.mem_append_left _ hused, husedFor⟩
  · rw [hsame, hinserted]
    intro other hother hdemo
    rcases List.mem_append.mp hother with hother | hother
    · exact h.demo other hother hdemo
    · rw [List.mem_singleton.mp hother] at hdemo
      exact absurd hdemo howner

/-- The key of a request that may commit is new. -/
lemma isNew_of_entries {held : Key → Prop} {entries : List Key}
    (hentries : ∀ entry ∈ entries, Vacant db held entry)
    (heq : entries = [.apiKeyId key.apiKeyId, .keyPrefix key.keyPrefix, .keyHash key.keyHash])
    (haccount : ∀ accountId, owner = .account accountId → db.accounts accountId = some .active) :
    IsNew db (newApiKey now owner key) := by
  subst heq
  exact ⟨(hentries (.apiKeyId key.apiKeyId) (by simp)).2,
    (hentries (.keyPrefix key.keyPrefix) (by simp)).2,
    (hentries (.keyHash key.keyHash) (by simp)).2, haccount⟩

end

/-! ### The consumption of an intent -/

/-- The update of the intent. -/
def consume (secretHash now apiKeyId : ℕ) (intent : DemoIntent) : DemoIntent :=
  if intent.secretHash == secretHash then
    { intent with consumedAt := some now, apiKeyId := some apiKeyId }
  else intent

section

variable {db db' : Db} {now secretHash apiKeyId : ℕ} {intent : DemoIntent} {new : ApiKey}

lemma consume_secretHash (secretHash now apiKeyId : ℕ) (intent : DemoIntent) :
    (consume secretHash now apiKeyId intent).secretHash = intent.secretHash := by
  unfold consume
  split <;> rfl

lemma consume_cases (secretHash now apiKeyId : ℕ) (intent : DemoIntent) :
    (intent.secretHash = secretHash ∧ consume secretHash now apiKeyId intent =
      { intent with consumedAt := some now, apiKeyId := some apiKeyId }) ∨
    (intent.secretHash ≠ secretHash ∧ consume secretHash now apiKeyId intent = intent) := by
  unfold consume
  split
  · rename_i hsame
    exact .inl ⟨beq_iff_eq.mp hsame, rfl⟩
  · rename_i hne
    exact .inr ⟨fun hsame => hne (beq_iff_eq.mpr hsame), rfl⟩

lemma IntentsSound.apiKeyId_ne (h : IntentsSound db) (hnew : IsNew db new)
    (hintent : intent ∈ db.intents) : intent.apiKeyId ≠ some new.apiKeyId := by
  rcases h.used intent hintent with ⟨hnone, -⟩ | ⟨key, hkey, hused⟩
  · rw [hnone]
    simp
  · rw [hused.apiKeyId, ne_eq, Option.some.injEq]
    exact (hnew.ne hkey).1

lemma IntentsSound.isOpen (h : IntentsSound db)
    (howned : ∃ intent ∈ db.intents, intent.isOpen secretHash now = true)
    (hintent : intent ∈ db.intents) (hsecret : intent.secretHash = secretHash) :
    intent.apiKeyId = none ∧ intent.consumedAt = none ∧ now < intent.expiresAt := by
  obtain ⟨other, hother, hopen⟩ := howned
  simp only [DemoIntent.isOpen, Bool.and_eq_true, beq_iff_eq, Option.isNone_iff_eq_none,
    decide_eq_true_eq] at hopen
  obtain ⟨⟨hotherSecret, hnone⟩, hlater⟩ := hopen
  obtain rfl : intent = other :=
    List.inj_on_of_nodup_map h.secretHashes hintent hother (hsecret.trans hotherSecret.symm)
  rcases h.used intent hintent with ⟨hid, -⟩ | ⟨key, -, hused⟩
  · exact ⟨hid, hnone, hlater⟩
  · rw [hused.consumedAt] at hnone
    cases hnone

/-- **The consumption of an intent** that is open, for a key that is new. -/
lemma intentsSound_consume (h : IntentsSound db) (hnew : IsNew db new)
    (hdemo : new.owner = .anonymousDemo) (hcreated : new.createdAt = now)
    (hexpires : new.expiresAt = some (now + DEMO_KEY_TTL_SECONDS))
    (howned : ∃ intent ∈ db.intents, intent.isOpen secretHash now = true)
    (hmay : db.mayConsume secretHash now = true)
    (hkeys : db'.keys = db.keys ++ [new])
    (hintents : db'.intents = db.intents.map (consume secretHash now new.apiKeyId)) :
    IntentsSound db' := by
  have husedFor (intent : DemoIntent) (hintent : intent ∈ db.intents)
      (hsecret : intent.secretHash = secretHash) :
      UsedFor { intent with consumedAt := some now, apiKeyId := some new.apiKeyId } new := by
    have hbefore : intent.createdAt ≤ now := by
      have hall := List.all_eq_true.mp hmay intent
      exact of_decide_eq_true (hall (List.mem_filter.mpr ⟨hintent, beq_iff_eq.mpr hsecret⟩))
    have hlater := (h.isOpen howned hintent hsecret).2.2
    exact ⟨rfl, congrArg some hcreated.symm, hdemo, hcreated ▸ hbefore, hcreated ▸ hlater,
      hcreated ▸ hexpires⟩
  refine ⟨?_, ?_, ?_, ?_, ?_⟩
  · rw [hintents, List.map_map]
    have hsame : (·.secretHash) ∘ consume secretHash now new.apiKeyId = (·.secretHash) :=
      funext (consume_secretHash secretHash now new.apiKeyId)
    rw [hsame]
    exact h.secretHashes
  · intro first hfirst second hsecond id hid hid'
    rw [hintents] at hfirst hsecond
    obtain ⟨intent, hintent, rfl⟩ := List.mem_map.mp hfirst
    obtain ⟨other, hother, rfl⟩ := List.mem_map.mp hsecond
    have hfresh := h.apiKeyId_ne hnew hintent
    have hfresh' := h.apiKeyId_ne hnew hother
    rcases consume_cases secretHash now new.apiKeyId intent with
      ⟨hsecret, heq⟩ | ⟨hsecret, heq⟩ <;>
    rcases consume_cases secretHash now new.apiKeyId other with
      ⟨hsecret', heq'⟩ | ⟨hsecret', heq'⟩
    · rw [List.inj_on_of_nodup_map h.secretHashes hintent hother (hsecret.trans hsecret'.symm)]
    · rw [heq] at hid
      rw [heq'] at hid'
      exact absurd (hid'.trans hid.symm) hfresh'
    · rw [heq] at hid
      rw [heq'] at hid'
      exact absurd (hid.trans hid'.symm) hfresh
    · rw [heq] at hid ⊢
      rw [heq'] at hid' ⊢
      exact h.single intent hintent other hother id hid hid'
  · intro after hafter
    rw [hintents] at hafter
    obtain ⟨intent, hintent, rfl⟩ := List.mem_map.mp hafter
    have hlasts := h.lasts intent hintent
    rcases consume_cases secretHash now _ _ with ⟨-, heq⟩ | ⟨-, heq⟩ <;> rw [heq] <;> exact hlasts
  · intro after hafter
    rw [hintents] at hafter
    rw [hkeys]
    obtain ⟨intent, hintent, rfl⟩ := List.mem_map.mp hafter
    rcases consume_cases secretHash now _ _ with ⟨hsecret, heq⟩ | ⟨-, heq⟩
    · rw [heq]
      exact .inr ⟨new, by simp, husedFor intent hintent hsecret⟩
    · rw [heq]
      refine (h.used intent hintent).imp_right ?_
      rintro ⟨key, hkey, hused⟩
      exact ⟨key, List.mem_append_left _ hkey, hused⟩
  · intro key hkey howner
    rw [hkeys] at hkey
    rw [hintents]
    rcases List.mem_append.mp hkey with hkey | hkey
    · obtain ⟨intent, hintent, hused⟩ := h.demo key hkey howner
      refine ⟨_, List.mem_map_of_mem hintent, ?_⟩
      rcases consume_cases secretHash now _ _ with ⟨hsecret, -⟩ | ⟨-, heq⟩
      · -- an intent that is open was not used
        have hnone := (h.isOpen howned hintent hsecret).1
        rw [hused.apiKeyId] at hnone
        cases hnone
      · rw [heq]
        exact hused
    · obtain rfl := List.mem_singleton.mp hkey
      obtain ⟨intent, hintent, hopen⟩ := howned
      simp only [DemoIntent.isOpen, Bool.and_eq_true, beq_iff_eq] at hopen
      refine ⟨_, List.mem_map_of_mem hintent, ?_⟩
      rcases consume_cases secretHash now _ _ with ⟨hsecret, heq⟩ | ⟨hne, -⟩
      · rw [heq]
        exact husedFor intent hintent hsecret
      · exact absurd hopen.1.1 hne

end

/-! ### Commits -/

section

variable {db db' : Db} {held : Key → Prop} {now : ℕ} {request : Request}

/-- The keys, the limits and the grants of keys, and the intents are left. -/
lemma sound_of_same (h : Sound db) (hkeys : db'.keys = db.keys)
    (hpolicies : db'.policies = db.policies) (hgrants : db'.keyGrants = db.keyGrants)
    (hintents : db'.intents = db.intents) : Sound db' := by
  refine ⟨⟨hkeys ▸ h.keys.apiKeyIds, hkeys ▸ h.keys.keyPrefixes, hkeys ▸ h.keys.keyHashes, ?_, ?_,
    ?_⟩, ⟨hintents ▸ h.intents.secretHashes, hintents ▸ h.intents.single,
    hintents ▸ h.intents.lasts, ?_, ?_⟩⟩
  · rw [hkeys, hpolicies]
    exact h.keys.policies
  · rw [hkeys, hgrants]
    exact h.keys.grants
  · intro apiKeyId hnone
    rw [Db.has, hkeys] at hnone
    rw [hgrants]
    exact h.keys.noGrants apiKeyId hnone
  · rw [hkeys, hintents]
    exact h.intents.used
  · rw [hkeys, hintents]
    exact h.intents.demo

/-- **A commit keeps the data sound.** -/
theorem sound_apply (h : Sound db) (hcommits : Commits db held now request) :
    Sound (request.apply now db) := by
  obtain ⟨-, howned, hentries, hmay⟩ := hcommits
  cases request with
  | issueApiKey slug displayName category key =>
    have hnew : IsNew db (newApiKey now (.legacy slug) key) :=
      isNew_of_entries hentries rfl (by simp)
    exact ⟨keysSound_insertKey h.keys rfl rfl rfl hnew hmay,
      intentsSound_insertKey h.intents rfl rfl (by simp)⟩
  | issueAccountApiKey accountId key =>
    have hnew : IsNew db (newApiKey now (.account accountId) key) :=
      isNew_of_entries hentries rfl (by rintro other ⟨⟩; exact howned.2)
    exact ⟨keysSound_insertKey h.keys rfl rfl rfl hnew hmay,
      intentsSound_insertKey h.intents rfl rfl (by simp)⟩
  | consumeDemoIntentAndIssueKey secretHash apiKeyId keyPrefix keyHash =>
    have hnew : IsNew db (newApiKey now .anonymousDemo ⟨apiKeyId, "anonymous demo", keyPrefix,
        keyHash, 10, 100, some (now + DEMO_KEY_TTL_SECONDS)⟩) :=
      isNew_of_entries hentries rfl (by simp)
    refine ⟨keysSound_insertKey h.keys rfl rfl rfl hnew rfl, ?_⟩
    exact intentsSound_consume h.intents hnew rfl rfl rfl howned.2 hmay rfl rfl
  | _ => exact sound_of_same h rfl rfl rfl rfl

/-- The insertion of a key, after consumers, intents and grants of consumers have been changed. -/
lemma changes_insertKey {owner : Owner} {key : NewKey} (hkeys : db'.keys = db.keys)
    (hgrants : db'.keyGrants = db.keyGrants) (haccounts : db'.accounts = db.accounts)
    (hclients : db'.clients = db.clients) (hnew : IsNew db (newApiKey now owner key))
    (hintents : ∀ intent ∈ db.intents, ∃ after ∈ db'.intents, Proceeds intent after)
    (hconsumers : ∀ slug consumer, db.consumers slug = some consumer →
      db'.consumers slug = some consumer)
    (hconsumerGrants : ∀ slug, Extends (db.consumerGrants slug) (db'.consumerGrants slug)) :
    Changes db (insertKey now owner key db') where
  keys := ⟨id, some (newApiKey now owner key), by rw [insertKey_keys, hkeys, List.map_id]; rfl,
    fun key _ => evolves_refl key, fun other hother => Option.some.inj hother ▸ hnew⟩
  intents := hintents
  accounts accountId status hstatus hne := ⟨status, by rw [← hstatus, ← haccounts]; rfl, hne⟩
  consumers := hconsumers
  clients := hclients
  keyGrants other hother := by
    have hne : other.apiKeyId ≠ key.apiKeyId := (hnew.ne hother).1
    rw [insertKey_keyGrants, Function.update_of_ne hne, hgrants]
  consumerGrants := hconsumerGrants

lemma changes_accounts (hkeys : db'.keys = db.keys) (hgrants : db'.keyGrants = db.keyGrants)
    (hclients : db'.clients = db.clients) (hintents : db'.intents = db.intents)
    (hconsumers : db'.consumers = db.consumers)
    (hconsumerGrants : db'.consumerGrants = db.consumerGrants)
    (haccounts : ∀ accountId status, db.accounts accountId = some status → status ≠ .active →
      ∃ status', db'.accounts accountId = some status' ∧ status' ≠ .active) : Changes db db' where
  keys := ⟨id, none, by rw [hkeys, List.map_id]; exact (List.append_nil _).symm,
    fun key _ => evolves_refl key, by simp⟩
  intents intent hintent := ⟨intent, hintents ▸ hintent, proceeds_refl intent⟩
  accounts := haccounts
  consumers _ _ h := hconsumers ▸ h
  clients := hclients
  keyGrants _ _ := by rw [hgrants]
  consumerGrants slug := hconsumerGrants ▸ extends_refl _

lemma proceeds_consume {secretHash apiKeyId : ℕ} (h : Sound db)
    (howned : ∃ intent ∈ db.intents, intent.isOpen secretHash now = true) (intent : DemoIntent)
    (hintent : intent ∈ db.intents) : Proceeds intent (consume secretHash now apiKeyId intent) := by
  rcases consume_cases secretHash now _ _ with ⟨hsecret, heq⟩ | ⟨-, heq⟩
  · rw [heq]
    exact ⟨rfl, fun hused => absurd (h.intents.isOpen howned hintent hsecret).2.1 hused⟩
  · rw [heq]
    exact proceeds_refl intent

/-- **What a commit can do.** -/
theorem changes_apply (h : Sound db) (hcommits : Commits db held now request) :
    Changes db (request.apply now db) := by
  obtain ⟨hadministrative, howned, hentries, -⟩ := hcommits
  cases request with
  | issueApiKey slug displayName category key =>
    refine changes_insertKey rfl rfl rfl rfl
      (isNew_of_entries hentries rfl (by simp))
      (fun intent hintent => ⟨intent, hintent, proceeds_refl intent⟩) ?_ ?_
    · intro other consumer hconsumer
      dsimp only
      by_cases hsame : other = slug
      · subst hsame
        rw [Function.update_self, hconsumer]
        rfl
      · rw [Function.update_of_ne hsame]
        exact hconsumer
    · intro other
      dsimp only
      by_cases hsame : other = slug
      · subst hsame
        rw [Function.update_self]
        exact extends_newGrants _ _
      · rw [Function.update_of_ne hsame]
        exact extends_refl _
  | issueAccountApiKey accountId key =>
    exact changes_insertKey rfl rfl rfl rfl
      (isNew_of_entries hentries rfl
        (by rintro other ⟨⟩; exact howned.2))
      (fun intent hintent => ⟨intent, hintent, proceeds_refl intent⟩) (fun _ _ => id)
      fun _ => extends_refl _
  | consumeDemoIntentAndIssueKey secretHash apiKeyId keyPrefix keyHash =>
    refine changes_insertKey rfl rfl rfl rfl
      (isNew_of_entries hentries rfl (by simp)) ?_ (fun _ _ => id)
      fun _ => extends_refl _
    intro intent hintent
    exact ⟨_, List.mem_map_of_mem hintent, proceeds_consume h howned.2 intent hintent⟩
  | signup accountId =>
    refine changes_accounts rfl rfl rfl rfl rfl rfl fun other status hstatus hne => ?_
    -- the account was not there
    have hother : other ≠ accountId := by
      rintro rfl
      have hvacant := (hentries (.account other) List.mem_cons_self).2
      rw [Db.has, hstatus] at hvacant
      cases hvacant
    exact ⟨status, (Function.update_of_ne hother _ _).trans hstatus, hne⟩
  | setAccountStatus accountId status =>
    refine changes_accounts rfl rfl rfl rfl rfl rfl fun other before hbefore hne => ?_
    by_cases hsame : other = accountId
    · subst hsame
      refine ⟨status, Function.update_self _ _ _, ?_⟩
      rintro rfl
      cases hadministrative
    · exact ⟨before, (Function.update_of_ne hsame _ _).trans hbefore, hne⟩
  | _ => exact changes_accounts rfl rfl rfl rfl rfl rfl fun _ status hstatus hne =>
      ⟨status, hstatus, hne⟩

end

end MotherApi.ApiKeyInvariants
