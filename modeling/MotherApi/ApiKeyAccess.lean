import MotherApi.ApiKeyLifecycle

/-!
Who gets in with an API key, in every state that requests side by side can lead to.

A key is accepted exactly if its text was issued and the key is active, has not expired, and has an
active owner. What ends a key ends it for good. A demo key comes from one intent, and an intent
gives one key. A key is never allowed more than the baseline of its kind, and issuing another key
gives a consumer nothing back that it has lost.
-/

namespace MotherApi.ApiKeyAccess

open MotherApi.Lib.Fallible MotherApi.Lib.Runs MotherApi.Lib.Transactions
  MotherApi.RequestAdmission MotherApi.Capabilities MotherApi.CapabilityDoors
  MotherApi.ApiKeyTexts MotherApi.ApiKeys MotherApi.ApiKeyInvariants MotherApi.ApiKeyLifecycle

/-! ### Runs -/

/-- What a run can do. -/
structure GoesOn (s t : State Db Call Key) : Prop where
  clock : s.clock ≤ t.clock
  keys : ∀ key ∈ s.db.keys, ∃ after ∈ t.db.keys, Evolves key after
  intents : ∀ intent ∈ s.db.intents, ∃ after ∈ t.db.intents, Proceeds intent after
  accounts : ∀ accountId status, s.db.accounts accountId = some status → status ≠ .active →
    ∃ status', t.db.accounts accountId = some status' ∧ status' ≠ .active
  consumers : ∀ slug consumer, s.db.consumers slug = some consumer →
    t.db.consumers slug = some consumer
  consumerGrants : ∀ slug, Extends (s.db.consumerGrants slug) (t.db.consumerGrants slug)

section

variable {s s' t : State Db Call Key} {choices : List (Choice Call)}

lemma goesOn_refl (s : State Db Call Key) : GoesOn s s where
  clock := Nat.le_refl _
  keys key hkey := ⟨key, hkey, evolves_refl key⟩
  intents intent hintent := ⟨intent, hintent, proceeds_refl intent⟩
  accounts _ status hstatus hne := ⟨status, hstatus, hne⟩
  consumers _ _ := id
  consumerGrants _ := extends_refl _

lemma GoesOn.changes (h : GoesOn s t) (hclock : t.clock ≤ s'.clock)
    (hchanges : Changes t.db s'.db) : GoesOn s s' where
  clock := h.clock.trans hclock
  keys key hkey := by
    obtain ⟨after, hafter, hevolves⟩ := h.keys key hkey
    obtain ⟨last, hlast, hevolves'⟩ := hchanges.exists_after hafter
    exact ⟨last, hlast, hevolves.trans hevolves'⟩
  intents intent hintent := by
    obtain ⟨after, hafter, hproceeds⟩ := h.intents intent hintent
    obtain ⟨last, hlast, hproceeds'⟩ := hchanges.intents after hafter
    exact ⟨last, hlast, hproceeds.trans hproceeds'⟩
  accounts accountId status hstatus hne := by
    obtain ⟨status', hstatus', hne'⟩ := h.accounts accountId status hstatus hne
    exact hchanges.accounts accountId status' hstatus' hne'
  consumers slug consumer hconsumer :=
    hchanges.consumers slug consumer (h.consumers slug consumer hconsumer)
  consumerGrants slug := (h.consumerGrants slug).trans (hchanges.consumerGrants slug)

/-- **A run** keeps every key and every intent, and what has ended. -/
theorem goesOn_of_run (h : Inv Sound Ready s) (hrun : run (step protocol) s choices = some t) :
    Inv Sound Ready t ∧ GoesOn s t := by
  refine inv_of_run (fun t => Inv Sound Ready t ∧ GoesOn s t) ?_ ⟨h, goesOn_refl s⟩ hrun
  rintro t c t' ⟨hinv, hgoes⟩ hstep
  obtain ⟨hclock, hchanges⟩ := step_changes hinv hstep
  exact ⟨(keeps fun _ _ => True).step c hinv trivial hstep, hgoes.changes hclock hchanges⟩

lemma made_of_run (h : Starts s) (hrun : run (step protocol) s choices = some t) :
    Made t.clock t.db := by
  obtain ⟨_, _, _, _, _, _, _, rfl⟩ := h
  exact (keepsTime.run (timely_start fun key hkey => by cases hkey) hrun).db

end

/-! ### Authentication -/

/-- The key may be used. -/
structure Accepts (db : Db) (now : ℕ) (key : ApiKey) : Prop where
  status : key.status = .active
  owner : db.ownerIsActive key.owner = true
  notExpired : key.isExpired now = false

/-- The key cannot be used any more. -/
def Over (db : Db) (now : ℕ) (key : ApiKey) : Prop :=
  key.status ≠ .active ∨ key.isExpired now = true ∨
    ∃ accountId status, key.owner = .account accountId ∧ db.accounts accountId = some status ∧
      status ≠ .active

section

variable {sha256 : String → ℕ} {authorization : List (Option String)} {db : Db} {now : ℕ}
  {key : ApiKey} {principal : ApiKeyPrincipal}

lemma principalFromLookup_eq_ok : principalFromLookup
    ⟨key, db.ownerIsActive key.owner, key.isExpired now⟩ = .ok principal ↔
      Accepts db now key ∧ principal = key.principal := by
  unfold principalFromLookup
  dsimp only
  split
  · rename_i hrefused
    constructor
    · rintro ⟨⟩
    · rintro ⟨⟨hstatus, howner, hexpired⟩, -⟩
      simp [hstatus, howner, hexpired] at hrefused
  · rename_i haccepted
    simp only [ne_eq, Bool.or_eq_true, decide_eq_true_eq, Bool.not_eq_true', not_or,
      Decidable.not_not, Bool.not_eq_false, Bool.not_eq_true] at haccepted
    obtain ⟨⟨hstatus, howner⟩, hexpired⟩ := haccepted
    constructor
    · rintro ⟨⟩
      exact ⟨⟨hstatus, howner, hexpired⟩, rfl⟩
    · rintro ⟨-, rfl⟩
      rfl

/-- **Who is accepted**: the one who presents the text of a key that may be used. -/
theorem authenticate_eq_ok (h : KeysSound db) :
    authenticate sha256 authorization now db = .ok principal ↔
      ∃ text, ∃ key ∈ db.keys, presentedKey authorization = .ok (text, ⟨key.keyPrefix⟩) ∧
        key.keyHash = sha256 text ∧ Accepts db now key ∧ principal = key.principal := by
  unfold authenticate
  rw [bind_eq_ok]
  constructor
  · rintro ⟨⟨text, keyPrefix⟩, hpresented, hlookup⟩
    dsimp only at hlookup
    split at hlookup
    · cases hlookup
    rename_i lookup hfind
    obtain ⟨key, hkey, rfl⟩ := Option.map_eq_some_iff.mp hfind
    have hmatch := List.find?_some hkey
    simp only [Bool.and_eq_true, beq_iff_eq] at hmatch
    obtain ⟨haccepts, hprincipal⟩ := principalFromLookup_eq_ok.mp hlookup
    refine ⟨text, key, List.mem_of_find?_eq_some hkey, ?_, hmatch.2, haccepts, hprincipal⟩
    rw [hmatch.1]
    exact hpresented
  · rintro ⟨text, key, hkey, hpresented, hhash, haccepts, hprincipal⟩
    refine ⟨(text, ⟨key.keyPrefix⟩), hpresented, ?_⟩
    have hfind : db.keys.find? (fun other => other.keyPrefix == key.keyPrefix &&
        other.keyHash == sha256 text) = some key := by
      cases hother : db.keys.find? fun other => other.keyPrefix == key.keyPrefix &&
          other.keyHash == sha256 text with
      | none =>
        have hnone := List.find?_eq_none.mp hother key hkey
        simp [hhash] at hnone
      | some other =>
        have hmatch := List.find?_some hother
        simp only [Bool.and_eq_true, beq_iff_eq] at hmatch
        rw [h.eq_of_keyHash (List.mem_of_find?_eq_some hother) hkey (hmatch.2.trans hhash.symm)]
    dsimp only
    rw [findKeyByPrefixAndHash, hfind]
    exact principalFromLookup_eq_ok.mpr ⟨haccepts, hprincipal⟩

lemma not_accepts_of_over (hover : Over db now key) : ¬ Accepts db now key := by
  intro haccepts
  rcases hover with hstatus | hexpired | ⟨accountId, status, howner, hstatus, hne⟩
  · exact hstatus haccepts.status
  · cases haccepts.notExpired.symm.trans hexpired
  · have hactive := haccepts.owner
    rw [howner, Db.ownerIsActive, hstatus, beq_iff_eq, Option.some.injEq] at hactive
    exact hne hactive

lemma isExpired_mono {now' : ℕ} (hle : now ≤ now') (h : key.isExpired now = true) :
    key.isExpired now' = true := by
  unfold ApiKey.isExpired at h ⊢
  cases hexpires : key.expiresAt with
  | none =>
    rw [hexpires] at h
    cases h
  | some expiresAt =>
    rw [hexpires, Option.any_some, decide_eq_true_eq] at h
    rw [Option.any_some, decide_eq_true_eq]
    exact h.trans hle

lemma over_of_goesOn {s t : State Db Call Key} {after : ApiKey} (hgoes : GoesOn s t)
    (hevolves : Evolves key after) (hover : Over s.db s.clock key) : Over t.db t.clock after := by
  rcases hover with hstatus | hexpired | ⟨accountId, status, howner, hstatus, hne⟩
  · exact .inl fun hactive => hstatus (hevolves.active hactive)
  · refine .inr (.inl ?_)
    have hlater := isExpired_mono hgoes.clock hexpired
    rwa [ApiKey.isExpired, ← hevolves.expiresAt] at hlater
  · obtain ⟨status', hstatus', hne'⟩ := hgoes.accounts accountId status hstatus hne
    exact .inr (.inr ⟨accountId, status', hevolves.owner.trans howner, hstatus', hne'⟩)

/-- **A key that is over is refused ever after.** -/
theorem refused_of_over {s t : State Db Call Key} {choices : List (Choice Call)}
    (hinv : Inv Sound Ready s) (hkey : key ∈ s.db.keys) (hover : Over s.db s.clock key)
    (hrun : run (step protocol) s choices = some t)
    (haccepted : authenticate sha256 authorization t.clock t.db = .ok principal) :
    principal.apiKeyId ≠ key.apiKeyId := by
  intro hsame
  obtain ⟨hinv', hgoes⟩ := goesOn_of_run hinv hrun
  obtain ⟨text, other, hother, -, -, haccepts, rfl⟩ :=
    (authenticate_eq_ok hinv'.db.keys).mp haccepted
  obtain ⟨after, hafter, hevolves⟩ := hgoes.keys key hkey
  obtain rfl : other = after :=
    hinv'.db.keys.eq_of_apiKeyId hother hafter (hsame.trans hevolves.apiKeyId.symm)
  exact not_accepts_of_over (over_of_goesOn hgoes hevolves hover) haccepts

end

/-! ### Revocations -/

section

variable {db : Db} {now : ℕ} {keyPrefix : String} {key : ApiKey}

lemma revokeByPrefix_of_made (h : Made now db) : revokeByPrefix keyPrefix now db =
    { db with keys := db.keys.map fun key => if key.keyPrefix == keyPrefix then
        { key with status := .revoked, revokedAt := some (key.revokedAt.getD now) } else key } := by
  refine if_pos (List.all_eq_true.mpr fun key hkey => ?_)
  exact decide_eq_true (h key (List.mem_filter.mp hkey).1).2

/-- What a request for a revocation leads to. -/
lemma revoked_of_step {s : State Db Call Key} {session : ℕ} (hmade : Made s.clock s.db)
    (hsession : s.sessions session = some ⟨.revokeByPrefix keyPrefix, .arrived⟩)
    (hkey : key ∈ s.db.keys) (hfound : key.keyPrefix = keyPrefix) :
    ∃ s', step protocol s (.advance session) = some s' ∧
      ∃ after ∈ s'.db.keys, after.apiKeyId = key.apiKeyId ∧ after.status = .revoked := by
  refine ⟨{ s.close session with db := revokeByPrefix keyPrefix s.clock s.db }, ?_, ?_⟩
  · rw [Lib.Transactions.step, hsession]
    rfl
  · rw [revokeByPrefix_of_made hmade]
    refine ⟨_, List.mem_map_of_mem hkey, ?_⟩
    rw [if_pos (beq_iff_eq.mpr hfound)]
    exact ⟨rfl, rfl⟩

end

/-! ### A run -/

def nobody : State Db Call Key :=
  start (noKeys (fun _ => none) (fun _ => none) (fun _ => none) (fun _ => []) (fun _ => [])
    fun _ => []) 0

lemma starts_nobody : Starts nobody := ⟨_, _, _, _, _, _, _, rfl⟩

/-- The drawn bytes of a key, which are all the same. -/
def drawn (count : ℕ) (byte : UInt8) : Bytes count :=
  ⟨List.replicate count byte, List.length_replicate⟩

def keyText (byte : UInt8) : String :=
  (RawApiKey.generate (drawn RANDOM_PREFIX_BYTES byte) (drawn RANDOM_SECRET_BYTES byte)).value

def prefixText (byte : UInt8) : String := keyPrefixOf (drawn RANDOM_PREFIX_BYTES byte)

/-- The digests of four texts. -/
def digestOf : UInt8 → ℕ
  | 0 => 0x74914b26f7f7c1e556f4deee687cb5520a8c658c39c7312ea73345193de68b6e
  | 1 => 0xdde0723351d18b62c3fd22e9e9b4b080adf8ee7d11c159514ac84b2c51d628de
  | 2 => 0xc7e4c1b45c3ac96c69617f5639177749fba00385ef7b10d02a218725329b2323
  | 3 => 0x50b7f8854f621eeacb2385f2a334600361506cc72e74b7023cb061566732fefd
  | _ => 0

/-- The table of these digests. -/
def sampleSha256 (text : String) : ℕ :=
  (([0, 1, 2, 3] : List UInt8).find? fun byte => keyText byte == text).elim 0 digestOf

def newKey (apiKeyId : ℕ) (byte : UInt8) : NewKey :=
  ⟨apiKeyId, "key", prefixText byte, digestOf byte, 60, 5000, none⟩

/-- A demo intent is used by one of two requests, and the key of an account is revoked. -/
def issuances : List (Choice Call) := List.flatten
  [[.arrive 0 ⟨.signup 1, .arrived⟩], advances 0 4,
    [.arrive 0 ⟨.createDemoIntent 7, .arrived⟩], advances 0 1, [.tick],
    [.arrive 0 ⟨.consumeDemoIntentAndIssueKey 7 10 (prefixText 0) (digestOf 0), .arrived⟩,
      .arrive 1 ⟨.consumeDemoIntentAndIssueKey 7 12 (prefixText 2) (digestOf 2), .arrived⟩],
    advances 0 2, advances 1 1, advances 0 5, advances 1 2,
    [.arrive 0 ⟨.issueAccountApiKey 1 (newKey 11 1), .arrived⟩,
      .arrive 1 ⟨.issueApiKey "acme" "Acme" "partner" (newKey 13 3), .arrived⟩],
    advances 0 3, advances 1 6, advances 0 3,
    [.tick, .arrive 0 ⟨.revokeByPrefix (prefixText 1), .arrived⟩], advances 0 1]

/-- The keys after the run. -/
def issuedKeys : List ApiKey :=
  [⟨10, .anonymousDemo, "anonymous demo", prefixText 0, digestOf 0, .active, some 86401, none, 1⟩,
    ⟨13, .legacy "acme", "key", prefixText 3, digestOf 3, .active, none, none, 1⟩,
    ⟨11, .account 1, "key", prefixText 1, digestOf 1, .revoked, none, some 2, 1⟩]

/-- Who is let in by a key in the header. -/
def letIn (s : State Db Call Key) (byte : UInt8) : Option ℕ :=
  (authenticate sampleSha256 [some (headerOf [] "Bearer".toList [' '] (keyText byte) [])]
    s.clock s.db).toOption.map (·.apiKeyId)

lemma letIn_eq (s : State Db Call Key) (byte : UInt8) : letIn s byte =
    ((findKeyByPrefixAndHash (prefixText byte) (sampleSha256 (keyText byte)) s.clock s.db).elim
      (.error .unauthorized) principalFromLookup).toOption.map (·.apiKeyId) := by
  have hpresented : presentedKey [some (headerOf [] "Bearer".toList [' '] (keyText byte) [])] =
      .ok (keyText byte, ⟨prefixText byte⟩) :=
    presentedKey_headerOf _ _ (by simp) (by decide) (by simp)
      (List.forall_mem_singleton.mpr (by decide)) (by simp)
  rw [letIn, authenticate, hpresented]
  simp only [bind, Except.bind]
  cases findKeyByPrefixAndHash _ _ s.clock s.db <;> rfl

lemma issuances_keys : (run (step protocol) nobody issuances).map (fun s => s.db.keys) =
    some issuedKeys := by
  decide +kernel

/-- The key that was revoked is refused, and so is the one that was not issued. -/
lemma issuances_letIn :
    (run (step protocol) nobody issuances).map (fun s => [0, 1, 2, 3].map (letIn s)) =
      some [some 10, none, none, some 13] := by
  simp only [funext (letIn_eq _)]
  decide +kernel

/-! ### The lifecycle -/

/-- What is promised of the keys in a state, and in all that follow. -/
structure Lifecycle (sha256 : String → ℕ) (s : State Db Call Key) : Prop where
  unique : (s.db.keys.map (·.apiKeyId)).Nodup ∧ (s.db.keys.map (·.keyPrefix)).Nodup ∧
    (s.db.keys.map (·.keyHash)).Nodup
  limited : ∀ key ∈ s.db.keys, (s.db.policies key.apiKeyId).isSome = true
  accepts : ∀ authorization principal,
    authenticate sha256 authorization s.clock s.db = .ok principal ↔
      ∃ text, ∃ key ∈ s.db.keys, presentedKey authorization = .ok (text, ⟨key.keyPrefix⟩) ∧
        key.keyHash = sha256 text ∧ Accepts s.db s.clock key ∧ principal = key.principal
  stays : ∀ key ∈ s.db.keys, ∀ choices t, run (step protocol) s choices = some t →
    ∃ after ∈ t.db.keys, Evolves key after
  never : ∀ key ∈ s.db.keys, Over s.db s.clock key →
    ∀ choices t, run (step protocol) s choices = some t → ∀ authorization principal,
      authenticate sha256 authorization t.clock t.db = .ok principal →
        principal.apiKeyId ≠ key.apiKeyId
  suspended : ∀ accountId status, s.db.accounts accountId = some status → status ≠ .active →
    ∀ choices t, run (step protocol) s choices = some t → ∀ authorization principal,
      authenticate sha256 authorization t.clock t.db = .ok principal →
        principal.owner ≠ .account accountId
  revokes : ∀ session, ∀ key ∈ s.db.keys,
    s.sessions session = some ⟨.revokeByPrefix key.keyPrefix, .arrived⟩ →
      ∃ s', step protocol s (.advance session) = some s' ∧
        ∀ choices t, run (step protocol) s' choices = some t → ∀ authorization principal,
          authenticate sha256 authorization t.clock t.db = .ok principal →
            principal.apiKeyId ≠ key.apiKeyId

/-- **Keys obey their lifecycle** in every state that is reached before which there were none. -/
theorem keys_lifecycle {s₀ s : State Db Call Key} {choices : List (Choice Call)}
    (hstart : Starts s₀) (h : run (step protocol) s₀ choices = some s) (sha256 : String → ℕ) :
    Lifecycle sha256 s := by
  have hinv : Inv Sound Ready s := (goesOn_of_run (inv_of_starts hstart) h).1
  have hkeys := hinv.db.keys
  refine ⟨⟨hkeys.apiKeyIds, hkeys.keyPrefixes, hkeys.keyHashes⟩, hkeys.policies,
    fun _ _ => authenticate_eq_ok hkeys, ?_, ?_, ?_, ?_⟩
  · intro key hkey choices t hrun
    exact (goesOn_of_run hinv hrun).2.keys key hkey
  · intro key hkey hover choices t hrun authorization principal haccepted
    exact refused_of_over hinv hkey hover hrun haccepted
  · intro accountId status hstatus hne choices t hrun authorization principal haccepted howner
    obtain ⟨hinv', hgoes⟩ := goesOn_of_run hinv hrun
    obtain ⟨text, key, -, -, -, haccepts, rfl⟩ := (authenticate_eq_ok hinv'.db.keys).mp haccepted
    obtain ⟨status', hstatus', hne'⟩ := hgoes.accounts accountId status hstatus hne
    exact not_accepts_of_over (.inr (.inr ⟨accountId, status', howner, hstatus', hne'⟩)) haccepts
  · intro session key hkey hsession
    obtain ⟨s', hstep, after, hafter, hsame, hrevoked⟩ :=
      revoked_of_step (made_of_run hstart h) hsession hkey rfl
    have hinv' : Inv Sound Ready s' := (keeps fun _ _ => True).step _ hinv trivial hstep
    refine ⟨s', hstep, fun choices t hrun authorization principal haccepted => ?_⟩
    rw [← hsame]
    refine refused_of_over hinv' hafter (.inl ?_) hrun haccepted
    rw [hrevoked]
    simp

theorem keys_lifecycle_issuances : ∃ s, run (step protocol) nobody issuances = some s ∧
    [0, 1, 2, 3].map (letIn s) = [some 10, none, none, some 13] ∧ Lifecycle sampleSha256 s := by
  obtain ⟨s, hrun, hletIn⟩ := Option.map_eq_some_iff.mp issuances_letIn
  exact ⟨s, hrun, hletIn, keys_lifecycle starts_nobody hrun sampleSha256⟩

/-! ### Demo keys -/

/-- What is promised of demo keys and their intents. -/
structure DemoIssuance (sha256 : String → ℕ) (s : State Db Call Key) : Prop where
  lasts : ∀ intent ∈ s.db.intents, intent.expiresAt = intent.createdAt + DEMO_INTENT_TTL_SECONDS
  intent : ∀ key ∈ s.db.keys, key.owner = .anonymousDemo →
    ∃! intent, intent ∈ s.db.intents ∧ UsedFor intent key
  key : ∀ intent ∈ s.db.intents, intent.consumedAt ≠ none →
    ∃! key, key ∈ s.db.keys ∧ UsedFor intent key
  spent : ∀ intent ∈ s.db.intents, intent.consumedAt ≠ none →
    ∀ choices t, run (step protocol) s choices = some t → intent ∈ t.db.intents ∧
      ∀ after ∈ t.db.intents, after.secretHash = intent.secretHash → after = intent
  ends : ∀ authorization principal,
    authenticate sha256 authorization s.clock s.db = .ok principal →
      principal.owner = .anonymousDemo → ∃ intent ∈ s.db.intents,
        intent.apiKeyId = some principal.apiKeyId ∧
        s.clock < intent.createdAt + DEMO_INTENT_TTL_SECONDS + DEMO_KEY_TTL_SECONDS

lemma apiKeyId_of_usedFor {db : Db} {intent : DemoIntent} {key other : ApiKey} (h : KeysSound db)
    (hkey : key ∈ db.keys) (hother : other ∈ db.keys) (hused : UsedFor intent key)
    (hused' : UsedFor intent other) : key = other :=
  h.eq_of_apiKeyId hkey hother (Option.some.inj (hused.apiKeyId.symm.trans hused'.apiKeyId))

/-- **A demo key for an intent**, in its time, and one only, for good. -/
theorem demo_issuance {s₀ s : State Db Call Key} {choices : List (Choice Call)}
    (hstart : Starts s₀) (h : run (step protocol) s₀ choices = some s) (sha256 : String → ℕ) :
    DemoIssuance sha256 s := by
  have hinv : Inv Sound Ready s := (goesOn_of_run (inv_of_starts hstart) h).1
  have hkeys := hinv.db.keys
  have hintents := hinv.db.intents
  refine ⟨hintents.lasts, ?_, ?_, ?_, ?_⟩
  · intro key hkey hdemo
    obtain ⟨intent, hintent, hused⟩ := hintents.demo key hkey hdemo
    refine ⟨intent, ⟨hintent, hused⟩, ?_⟩
    rintro other ⟨hother, hused'⟩
    exact hintents.single other hother intent hintent _ hused'.apiKeyId hused.apiKeyId
  · intro intent hintent hconsumed
    rcases hintents.used intent hintent with ⟨-, hnone⟩ | ⟨key, hkey, hused⟩
    · exact absurd hnone hconsumed
    · refine ⟨key, ⟨hkey, hused⟩, ?_⟩
      rintro other ⟨hother, hused'⟩
      exact apiKeyId_of_usedFor hkeys hother hkey hused' hused
  · intro intent hintent hconsumed choices t hrun
    obtain ⟨hinv', hgoes⟩ := goesOn_of_run hinv hrun
    obtain ⟨kept, hkept, hproceeds⟩ := hgoes.intents intent hintent
    obtain rfl := hproceeds.used hconsumed
    refine ⟨hkept, fun after hafter hsecret => ?_⟩
    exact List.inj_on_of_nodup_map hinv'.db.intents.secretHashes hafter hkept hsecret
  · intro authorization principal haccepted hdemo
    obtain ⟨text, key, hkey, -, -, haccepts, rfl⟩ := (authenticate_eq_ok hkeys).mp haccepted
    obtain ⟨intent, hintent, hused⟩ := hintents.demo key hkey hdemo
    refine ⟨intent, hintent, hused.apiKeyId, ?_⟩
    have hlasts := hintents.lasts intent hintent
    have hlater := haccepts.notExpired
    rw [ApiKey.isExpired, hused.expiresAt, Option.any_some, decide_eq_false_iff_not] at hlater
    have hinTime := hused.inTime
    omega

theorem demo_issuance_issuances : ∃ s, run (step protocol) nobody issuances = some s ∧
    s.db.keys = issuedKeys ∧ letIn s 0 = some 10 ∧ DemoIssuance sampleSha256 s := by
  obtain ⟨s, hrun, hletIn⟩ := Option.map_eq_some_iff.mp issuances_letIn
  have hkeys := issuances_keys
  rw [hrun, Option.map_some, Option.some.injEq] at hkeys
  exact ⟨s, hrun, hkeys, (List.cons.inj hletIn).1, demo_issuance starts_nobody hrun sampleSha256⟩

/-! ### What a key is allowed -/

/-- The row grants the capability on the network. -/
def Permits (rows : List AccountGrantRow) (now : ℕ) (capability : Capability) (network : String) :
    Prop :=
  ∃ row ∈ rows, row.Grants (now : ℤ) capability ∧
    (row.networkScope = "*" ∨ row.networkScope = network)

/-- What the owner is allowed, within the baseline of the kind. -/
def OwnerPermits (db : Db) (now : ℕ) (capability : Capability) (network : String) : Owner → Prop
  | .legacy slug => capability ∈ legacyBaseline ∧
      Permits (db.consumerGrants slug) now capability network
  | .account accountId => capability ∈ ACCOUNT_BASELINE ∧
      Permits (db.accountGrants accountId) now capability network
  | .anonymousDemo => capability ∈ legacyBaseline ∧ network = "eth-mainnet"
  | .agent _ => False

section

variable {rows : List AccountGrantRow} {grants : List CapabilityGrant} {now : ℕ}
  {capability : Capability} {network : String}

lemma scope_of_intoDomain {row : AccountGrantRow} {grant : CapabilityGrant}
    (h : (row.toRow (now : ℤ)).intoDomain = .ok grant) :
    (row.networkScope = "*" ∨ row.networkScope = network) ↔
      (grant.networkScope = .any ∨ grant.networkScope = .exact network) := by
  have hscope := ((intoDomain_toRow row _).mp h).2.1
  unfold NetworkScope.parse at hscope
  split at hscope
  · rename_i hany
    rw [← Option.some.inj hscope, hany]
    simp
  · rename_i hnotAny
    split at hscope
    · cases hscope
    · rw [← Option.some.inj hscope]
      simp [hnotAny]

/-- The grants that are read cover what the rows permit. -/
lemma covers_iff_permits
    (h : (rows.map (·.toRow (now : ℤ))).mapM CapabilityGrantRow.intoDomain = .ok grants) :
    Covers grants capability network ↔ Permits rows now capability network := by
  constructor
  · rintro ⟨grant, hgrant, hstatus, hcapability, hscope⟩
    obtain ⟨_, hmem, hdomain⟩ := mem_of_mapM h hgrant
    obtain ⟨row, hrow, rfl⟩ := List.mem_map.mp hmem
    exact ⟨row, hrow, (grants_iff hdomain capability).mpr ⟨hstatus, hcapability⟩,
      (scope_of_intoDomain hdomain).mpr hscope⟩
  · rintro ⟨row, hrow, hgrants, hscope⟩
    obtain ⟨grant, hgrant, hdomain⟩ := exists_of_mapM h (List.mem_map_of_mem hrow)
    obtain ⟨hstatus, hcapability⟩ := (grants_iff hdomain capability).mp hgrants
    exact ⟨grant, hgrant, hstatus, hcapability, (scope_of_intoDomain hdomain).mp hscope⟩

lemma permits_newGrants {capabilities : List Capability}
    {scope : { text : String // text = "*" ∨ Strings.isAssetSlug text = true }} :
    Permits (newGrants capabilities scope) now capability network ↔
      capability ∈ capabilities ∧ (scope.val = "*" ∨ scope.val = network) := by
  have hid {c : Capability} : c.id = capability.id ↔ c = capability := by
    rw [← Capability.parse_eq_some, Capability.parse_eq_some.mpr rfl, Option.some.injEq, eq_comm]
  constructor
  · rintro ⟨row, hrow, ⟨hcapability, -, -⟩, hscope⟩
    obtain ⟨c, hc, rfl⟩ := List.mem_map.mp hrow
    exact ⟨hid.mp hcapability ▸ hc, hscope⟩
  · rintro ⟨hmem, hscope⟩
    exact ⟨newGrant capability scope, List.mem_map_of_mem hmem, ⟨rfl, rfl, rfl⟩, hscope⟩

lemma covers_demo : Covers (legacyBaseline.map fun c => ⟨c, .exact "eth-mainnet", .active⟩)
    capability network ↔ capability ∈ legacyBaseline ∧ network = "eth-mainnet" := by
  constructor
  · rintro ⟨grant, hgrant, -, hcapability, hscope⟩
    obtain ⟨c, hc, rfl⟩ := List.mem_map.mp hgrant
    refine ⟨hcapability ▸ hc, ?_⟩
    simpa [eq_comm] using hscope
  · rintro ⟨hmem, rfl⟩
    exact ⟨_, List.mem_map_of_mem hmem, rfl, rfl, .inr rfl⟩

lemma evaluateAuthorization_network {context : ApiKeyAuthorizationGrants} :
    evaluateAuthorization context (.network capability network) = .allow ↔
      context.Cover capability network := by
  rw [evaluateAuthorization_allow, any_permits_network, any_permits_network,
    ApiKeyAuthorizationGrants.Cover]
  simp only [any_permits_network]

lemma findAuthorizationGrants_eq_ok {kind : KeyKind}
    {ownerRows clientRows keyRows : List CapabilityGrantRow} {context : ApiKeyAuthorizationGrants}
    (hdemo : kind ≠ .anonymousDemo) (hagent : kind ≠ .agent) :
    findAuthorizationGrants kind ownerRows clientRows keyRows = .ok context ↔
      ∃ owner own, ownerRows.mapM CapabilityGrantRow.intoDomain = .ok owner ∧
        keyRows.mapM CapabilityGrantRow.intoDomain = .ok own ∧ context = ⟨owner, own, none⟩ := by
  simp only [findAuthorizationGrants, hdemo, hagent, if_false, bind_eq_ok, Except.ok.injEq]
  constructor
  · rintro ⟨owner, howner, own, hown, _, rfl, rfl⟩
    exact ⟨owner, own, howner, hown, rfl⟩
  · rintro ⟨owner, own, howner, hown, rfl⟩
    exact ⟨owner, howner, own, hown, none, rfl, rfl⟩

/-- **What a key is allowed** is the baseline of its kind, as far as its owner is. -/
theorem allowed_iff {db : Db} {key : ApiKey} {context : ApiKeyAuthorizationGrants}
    (hgrants : db.keyGrants key.apiKeyId = key.owner.keyGrants)
    (h : db.grantsOf key now = .ok context) :
    evaluateAuthorization context (.network capability network) = .allow ↔
      OwnerPermits db now capability network key.owner := by
  rw [evaluateAuthorization_network, ApiKeyAuthorizationGrants.Cover]
  rw [Db.grantsOf, hgrants] at h
  dsimp only at h
  -- the rows of the key and of its owner, for the two kinds that have both
  have hboth {owner : Owner} {capabilities : List Capability}
      (hown : owner.keyGrants = newGrants capabilities everyNetwork)
      (hdemo : owner.kind ≠ .anonymousDemo) (hagent : owner.kind ≠ .agent)
      (hfind : findAuthorizationGrants owner.kind ((db.ownerGrants owner).map (·.toRow (now : ℤ)))
        ((db.ownerClientGrants owner).map (·.toRow (now : ℤ)))
        (owner.keyGrants.map (·.toRow (now : ℤ))) = .ok context) :
      (Covers context.ownerGrants capability network ∧ Covers context.keyGrants capability network ∧
        ∀ client ∈ context.clientGrants, Covers client capability network) ↔
      capability ∈ capabilities ∧ Permits (db.ownerGrants owner) now capability network := by
    obtain ⟨ownerGrants, own, howner, hkey, rfl⟩ :=
      (findAuthorizationGrants_eq_ok hdemo hagent).mp hfind
    rw [hown] at hkey
    rw [covers_iff_permits howner, covers_iff_permits hkey, permits_newGrants]
    simp [everyNetwork, and_comm]
  cases howner : key.owner with
  | legacy slug =>
    rw [howner] at h
    exact hboth rfl (by simp [Owner.kind]) (by simp [Owner.kind]) h
  | account accountId =>
    rw [howner] at h
    exact hboth rfl (by simp [Owner.kind]) (by simp [Owner.kind]) h
  | anonymousDemo =>
    rw [howner] at h
    simp only [findAuthorizationGrants, Owner.kind, reduceCtorEq, if_true, if_false, bind_eq_ok,
      Except.ok.injEq] at h
    obtain ⟨_, rfl, own, hown, _, rfl, rfl⟩ := h
    dsimp only [Owner.keyGrants] at hown ⊢
    rw [covers_demo, covers_iff_permits hown, permits_newGrants]
    simp only [OwnerPermits, ethMainnet, Option.mem_def, reduceCtorEq, IsEmpty.forall_iff,
      implies_true, and_true]
    constructor
    · exact fun hall => hall.1
    · rintro ⟨hmem, rfl⟩
      exact ⟨⟨hmem, rfl⟩, hmem, .inr rfl⟩
  | agent clientId =>
    rw [howner] at h
    simp only [findAuthorizationGrants, Owner.kind, reduceCtorEq, if_true, if_false, bind_eq_ok]
      at h
    obtain ⟨_, _, own, hown, _, _, hcontext⟩ := h
    cases hcontext
    cases hown
    simp [OwnerPermits, Covers]

lemma grants_of_later {row : AccountGrantRow} {now' : ℕ} (hle : now ≤ now')
    (h : row.Grants (now' : ℤ) capability) : row.Grants (now : ℤ) capability := by
  obtain ⟨hcapability, hstatus, hexpired⟩ := h
  refine ⟨hcapability, hstatus, ?_⟩
  unfold AccountGrantRow.isExpired at hexpired ⊢
  cases hexpires : row.expiresAt with
  | none => rfl
  | some expiresAt =>
    rw [hexpires, Option.any_some, decide_eq_false_iff_not] at hexpired
    rw [Option.any_some, decide_eq_false_iff_not]
    omega

/-- What a consumer has lost for every network is not given back. -/
lemma not_permits_of_extends {rows' : List AccountGrantRow} {now' : ℕ} (hle : now ≤ now')
    (hextends : Extends rows rows')
    (hthere : ∃ row ∈ rows, row.capabilityId = capability.id ∧ row.networkScope = "*")
    (hlost : ∀ row ∈ rows, ¬ row.Grants (now : ℤ) capability) :
    ¬ Permits rows' now' capability network := by
  rintro ⟨row, hrow, hgrants, -⟩
  rcases hextends.adds row hrow with hrow | ⟨hscope, hnone⟩
  · exact hlost row hrow (grants_of_later hle hgrants)
  · obtain ⟨old, hold, hcapability, hany⟩ := hthere
    exact hnone old hold (hcapability.trans hgrants.1.symm) hany

lemma exists_grantsOf_demo {db : Db} {key : ApiKey} (hdemo : key.owner = .anonymousDemo)
    (hgrants : db.keyGrants key.apiKeyId = key.owner.keyGrants) :
    ∃ context, db.grantsOf key now = .ok context := by
  have hread : ∃ own, ((Owner.keyGrants .anonymousDemo).map
      (·.toRow (now : ℤ))).mapM CapabilityGrantRow.intoDomain = .ok own := by
    refine exists_mapM_eq_ok fun row hrow => ?_
    obtain ⟨grant, hgrant, rfl⟩ := List.mem_map.mp hrow
    obtain ⟨c, -, rfl⟩ := List.mem_map.mp hgrant
    exact (exists_intoDomain _ _).mpr ⟨c, rfl⟩
  obtain ⟨own, hown⟩ := hread
  refine ⟨⟨legacyBaseline.map fun c => ⟨c, .exact "eth-mainnet", .active⟩, own, none⟩, ?_⟩
  rw [Db.grantsOf, hgrants, hdemo]
  simp only [findAuthorizationGrants, Owner.kind, reduceCtorEq, if_true, if_false, bind_eq_ok,
    Except.ok.injEq]
  exact ⟨_, rfl, own, hown, none, rfl, rfl⟩

end

lemma not_mem_of_browser : ∀ capability ∈ DATALAB_BROWSER_BASELINE,
    capability ∉ legacyBaseline ∧ capability ∉ ACCOUNT_BASELINE := by decide

/-- What is promised of what keys are allowed. -/
structure Authority (s : State Db Call Key) : Prop where
  allowed : ∀ key ∈ s.db.keys, ∀ context capability network,
    s.db.grantsOf key s.clock = .ok context →
      (evaluateAuthorization context (.network capability network) = .allow ↔
        OwnerPermits s.db s.clock capability network key.owner)
  demo : ∀ key ∈ s.db.keys, key.owner = .anonymousDemo →
    ∃ context, s.db.grantsOf key s.clock = .ok context
  notBroadened : ∀ key ∈ s.db.keys, ∀ context network, ∀ capability ∈ DATALAB_BROWSER_BASELINE,
    s.db.grantsOf key s.clock = .ok context →
      evaluateAuthorization context (.network capability network) ≠ .allow
  notRestored : ∀ slug capability,
    (∃ row ∈ s.db.consumerGrants slug, row.capabilityId = capability.id ∧
      row.networkScope = "*") →
    (∀ row ∈ s.db.consumerGrants slug, ¬ row.Grants (s.clock : ℤ) capability) →
    ∀ choices t, run (step protocol) s choices = some t → ∀ key ∈ t.db.keys,
      key.owner = .legacy slug → ∀ context network, t.db.grantsOf key t.clock = .ok context →
        evaluateAuthorization context (.network capability network) ≠ .allow

end MotherApi.ApiKeyAccess
