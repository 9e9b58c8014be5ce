import MotherApi.ApiKeyInvariants
import MotherApi.Lib.TransactionTimes

/-!
The life of an API key, under requests that run side by side.

A request that commits holds the row of its owner and the entries that it inserts, so that what it
has found of them still holds; a statement by itself relies on nothing. So the invariants hold in
every state, and a key that is refused because it was revoked, because it has expired, or because
its account is not active, is refused ever after.
-/

namespace MotherApi.ApiKeyLifecycle

open MotherApi.Lib.Fallible MotherApi.Lib.Runs MotherApi.Lib.Transactions
  MotherApi.RequestAdmission MotherApi.CapabilityDoors MotherApi.ApiKeyTexts MotherApi.ApiKeys
  MotherApi.ApiKeyInvariants

/-! ### What a request relies on -/

/-- What a request relies on in its phase. -/
def Relies (db : Db) (held : Key → Prop) (request : Request) : Phase → Prop
  | .inserting now count =>
    Owned db held now request ∧ ∀ key ∈ request.entries.take count, Vacant db held key
  | .completed now => Commits db held now request
  | _ => True

/-- The time at which the transaction began. -/
def timeOf : Phase → Option ℕ
  | .begun now | .conflicted now | .inserting now _ | .completed now => some now
  | .arrived | .refused => none

def Ready (db : Db) (held : Key → Prop) (call : Call) : Prop :=
  call.request.isAdministrative = true ∧ Relies db held call.request call.phase

section

variable {db db' : Db} {held held' : Key → Prop} {call : Call} {now : ℕ} {request : Request}

lemma vacant_of_getElem?_eq_none {count : ℕ}
    (h : ∀ key ∈ request.entries.take count, Vacant db held key)
    (hnone : request.entries[count]? = none) : ∀ key ∈ request.entries, Vacant db held key := by
  rwa [List.take_of_length_le (List.getElem?_eq_none_iff.mp hnone)] at h

/-- What follows the insertion of an entry: nothing, the next entry, the update of the intent, or
the commit. -/
lemma next_inserting (request : Request) (now count : ℕ) :
    let call : Call := ⟨request, .inserting now count⟩
    call.next = .finish ∨
    (∃ key, request.entries[count]? = some key ∧
      call.next = call.insert key (.inserting now (count + 1))) ∨
    request.entries[count]? = none ∧
      ((∃ secretHash apiKeyId keyPrefix keyHash,
        request = .consumeDemoIntentAndIssueKey secretHash apiKeyId keyPrefix keyHash ∧
        call.next = .access (.intent secretHash) (fun _ => true) (fun _ => true) fun db =>
          call.enter (if db.mayConsume secretHash now then .completed now else .refused)) ∨
      ((∀ db, MayFinish db now request) ∧ call.next = .commit fun db => request.apply now db)) := by
  intro call
  dsimp only [call, Call.next]
  split
  · exact .inl rfl
  split
  · rename_i key hkey
    exact .inr (.inl ⟨key, hkey, rfl⟩)
  · rename_i hnone
    cases request with
    | consumeDemoIntentAndIssueKey secretHash apiKeyId keyPrefix keyHash =>
      exact .inr (.inr ⟨hnone, .inl ⟨secretHash, apiKeyId, keyPrefix, keyHash, rfl, rfl⟩⟩)
    | issueApiKey | issueAccountApiKey =>
      rw [Call.lastStatement]
      dsimp only
      split
      · rename_i hpolicy
        exact .inr (.inr ⟨hnone, .inr ⟨fun _ => hpolicy, rfl⟩⟩)
      · exact .inl rfl
    | _ => exact .inr (.inr ⟨hnone, .inr ⟨fun _ => trivial, rfl⟩⟩)

lemma next_commit {write : Db → Db} (haction : call.next = .commit write) :
    ∃ now, timeOf call.phase = some now ∧ write = (fun db => call.request.apply now db) ∧
      ∀ db held, Ready db held call → Commits db held now call.request := by
  obtain ⟨request, phase⟩ := call
  cases phase with
  | arrived | begun | conflicted => cases request <;> cases haction
  | refused => cases haction
  | completed now =>
    cases haction
    exact ⟨now, rfl, rfl, fun _ _ h => h.2⟩
  | inserting now count =>
    rcases next_inserting request now count with hnext | ⟨key, -, hnext⟩ |
      ⟨hnone, ⟨_, _, _, _, -, hnext⟩ | ⟨hmay, hnext⟩⟩
    · cases hnext.symm.trans haction
    · cases hnext.symm.trans haction
    · cases hnext.symm.trans haction
    · cases hnext.symm.trans haction
      refine ⟨now, rfl, rfl, fun db held h => ?_⟩
      exact ⟨h.1, h.2.1, vacant_of_getElem?_eq_none h.2.2 hnone, hmay db⟩

lemma next_statement {row : ℕ → Db → Option Key} {write : ℕ → Db → Db}
    (haction : call.next = .statement row write) :
    (∃ keyPrefix, write = revokeByPrefix keyPrefix) ∨
      ∃ secretHash, write = createDemoIntent secretHash := by
  obtain ⟨request, phase⟩ := call
  cases phase with
  | arrived =>
    cases request with
    | revokeByPrefix keyPrefix =>
      cases haction
      exact .inl ⟨keyPrefix, rfl⟩
    | createDemoIntent secretHash =>
      cases haction
      exact .inr ⟨secretHash, rfl⟩
    | _ => cases haction
  | begun | conflicted => cases request <;> cases haction
  | inserting now count =>
    rcases next_inserting request now count with hnext | ⟨key, -, hnext⟩ |
      ⟨-, ⟨_, _, _, _, -, hnext⟩ | ⟨-, hnext⟩⟩ <;> cases hnext.symm.trans haction
  | _ => cases haction

/-! ### What a statement finds -/

lemma ready_refused (h : call.request.isAdministrative = true) :
    Ready db held (call.enter .refused) := ⟨h, trivial⟩

lemma ready_owned (h : call.request.isAdministrative = true)
    (howned : Owned db held now call.request) : Ready db held (call.enter (.inserting now 0)) :=
  ⟨h, howned, by simp⟩

lemma owned_mono (h : Owned db held now request) (hkeep : ∀ key, held key → held' key) :
    Owned db held' now request := by
  cases request with
  | issueApiKey => exact hkeep _ h
  | issueAccountApiKey | consumeDemoIntentAndIssueKey | setAccountStatus =>
    exact ⟨hkeep _ h.1, h.2⟩
  | _ => trivial

lemma ready_read {next : Db → Call} (h : Ready db held call) (haction : call.next = .read next) :
    Ready db held (next db) := by
  obtain ⟨request, phase⟩ := call
  cases phase with
  | begun now =>
    cases request with
    | signup =>
      cases haction
      exact ready_owned h.1 trivial
    | _ => cases haction
  | inserting now count =>
    rcases next_inserting request now count with hnext | ⟨key, -, hnext⟩ |
      ⟨-, ⟨_, _, _, _, -, hnext⟩ | ⟨-, hnext⟩⟩ <;> cases hnext.symm.trans haction
  | arrived | conflicted => cases request <;> cases haction
  | _ => cases haction

lemma ready_begin {next : ℕ → Call} (h : Ready db held call) (haction : call.next = .begin next) :
    Ready db held (next now) := by
  obtain ⟨request, phase⟩ := call
  cases phase with
  | arrived =>
    cases request with
    | createDemoIntent | revokeByPrefix => cases haction
    | _ =>
      cases haction
      exact ⟨h.1, trivial⟩
  | inserting now count =>
    rcases next_inserting request now count with hnext | ⟨key, -, hnext⟩ |
      ⟨-, ⟨_, _, _, _, -, hnext⟩ | ⟨-, hnext⟩⟩ <;> cases hnext.symm.trans haction
  | begun | conflicted => cases request <;> cases haction
  | _ => cases haction

lemma ready_lock {found : Bool} (h : call.request.isAdministrative = true)
    (howned : found = true → Owned db held now call.request) :
    Ready db held (call.enter (if found then .inserting now 0 else .refused)) := by
  split
  · rename_i hfound
    exact ready_owned h (howned hfound)
  · exact ready_refused h

/-- The entry that is inserted is held, like those before it. -/
lemma vacant_take_succ {count : ℕ} {key : Key}
    (h : ∀ other ∈ request.entries.take count, Vacant db held other)
    (hkey : request.entries[count]? = some key) (hkeep : ∀ other, held other → held' other)
    (hvacant : Vacant db held' key) :
    ∀ other ∈ request.entries.take (count + 1), Vacant db held' other := by
  intro other hother
  rw [List.take_add_one, hkey, Option.toList_some, List.mem_append, List.mem_singleton] at hother
  rcases hother with hother | rfl
  · exact ⟨hkeep other (h other hother).1, (h other hother).2⟩
  · exact hvacant

/-- A statement on a row leaves a request with what it relies on: the rows that it had, and the row
that it takes. -/
lemma ready_access {key : Key} {waits takes : Db → Bool} {next : Db → Call}
    (h : Ready db held call) (haction : call.next = .access key waits takes next)
    (hkeep : ∀ other, held other → held' other) (hheld : takes db = true → held' key) :
    Ready db held' (next db) := by
  obtain ⟨request, phase⟩ := call
  obtain ⟨hadministrative, h⟩ := h
  cases phase with
  | arrived => cases request <;> cases haction
  | begun now =>
    cases request with
    | issueApiKey slug displayName category key =>
      cases haction
      beta_reduce at hheld ⊢
      split
      · exact ready_refused hadministrative
      rename_i hvalid
      split
      · exact ⟨hadministrative, trivial⟩
      · rename_i hnone
        refine ready_owned hadministrative (hheld ?_)
        rw [Bool.not_eq_true', Bool.not_eq_false] at hvalid
        rw [hvalid, Bool.not_eq_true _ |>.mp hnone]
        rfl
    | issueAccountApiKey accountId key =>
      cases haction
      beta_reduce at hheld ⊢
      refine ready_lock hadministrative fun hfound => ?_
      exact ⟨hheld hfound, beq_iff_eq.mp hfound⟩
    | consumeDemoIntentAndIssueKey secretHash apiKeyId keyPrefix keyHash =>
      cases haction
      beta_reduce at hheld ⊢
      refine ready_lock hadministrative fun hfound => ?_
      exact ⟨hheld hfound, List.any_eq_true.mp hfound⟩
    | setAccountStatus accountId status =>
      cases haction
      beta_reduce at hheld ⊢
      refine ready_lock hadministrative fun hfound => ?_
      refine ⟨hheld hfound, ?_⟩
      obtain ⟨before, hbefore, -⟩ := (Option.any_eq_true _ _).mp hfound
      rw [Db.has, hbefore, Option.isSome_some]
    | _ => cases haction
  | conflicted now =>
    cases request with
    | issueApiKey slug displayName category key =>
      cases haction
      beta_reduce at hheld ⊢
      split
      · rename_i existing hexisting
        split
        · exact ready_refused hadministrative
        · refine ready_owned hadministrative (hheld ?_)
          rw [Db.has, hexisting, Option.isSome_some]
      · exact ready_refused hadministrative
    | _ => cases haction
  | inserting now count =>
    rcases next_inserting request now count with hnext | ⟨_, hentry, hnext⟩ |
      ⟨hnone, ⟨secretHash, _, _, _, rfl, hnext⟩ | ⟨-, hnext⟩⟩
    · cases hnext.symm.trans haction
    · cases hnext.symm.trans haction
      beta_reduce at hheld ⊢
      split
      · exact ready_refused hadministrative
      · rename_i hvacant
        have hfree : db.has key = false := Bool.eq_false_iff.mpr hvacant
        have htaken : held' key := hheld (by rw [hfree]; rfl)
        exact ⟨hadministrative, owned_mono h.1 hkeep,
          vacant_take_succ h.2 hentry hkeep ⟨htaken, hfree⟩⟩
    · cases hnext.symm.trans haction
      beta_reduce
      split
      · rename_i hmay
        have hentries := vacant_of_getElem?_eq_none h.2 hnone
        exact ⟨hadministrative, hadministrative, owned_mono h.1 hkeep,
          fun entry hentry => ⟨hkeep _ (hentries entry hentry).1, (hentries entry hentry).2⟩, hmay⟩
      · exact ready_refused hadministrative
    · cases hnext.symm.trans haction
  | _ => cases haction

/-! ### The others -/

/-- What a request relies on in the data. -/
structure Agree (db db' : Db) (held : Key → Prop) : Prop where
  has : ∀ key, held key → (∀ secretHash, key ≠ .intent secretHash) → db.has key = false →
    db'.has key = false
  accounts : ∀ accountId, held (.account accountId) →
    db'.accounts accountId = db.accounts accountId
  intents : ∀ secretHash, held (.intent secretHash) → ∀ intent ∈ db.intents,
    intent.secretHash = secretHash → intent ∈ db'.intents
  others : ∀ secretHash, held (.intent secretHash) → db.has (.intent secretHash) = true →
    ∀ intent ∈ db'.intents, intent.secretHash = secretHash → intent ∈ db.intents

lemma owned_of_agree (h : Owned db held now request) (hagree : Agree db db' held) :
    Owned db' held now request := by
  cases request with
  | issueApiKey => exact h
  | issueAccountApiKey accountId key => exact ⟨h.1, (hagree.accounts accountId h.1).trans h.2⟩
  | consumeDemoIntentAndIssueKey secretHash apiKeyId keyPrefix keyHash =>
    obtain ⟨hheld, intent, hintent, hopen⟩ := h
    have hsecret : intent.secretHash = secretHash := by
      simp only [DemoIntent.isOpen, Bool.and_eq_true, beq_iff_eq] at hopen
      exact hopen.1.1
    exact ⟨hheld, intent, hagree.intents secretHash hheld intent hintent hsecret, hopen⟩
  | setAccountStatus accountId status =>
    refine ⟨h.1, ?_⟩
    rw [Db.has, hagree.accounts accountId h.1]
    exact h.2
  | _ => trivial

lemma ne_intent_of_mem_entries {key : Key} (h : key ∈ request.entries) (secretHash : ℕ) :
    key ≠ .intent secretHash := by
  rintro rfl
  cases request <;> simp [Request.entries] at h

lemma vacant_of_agree {key : Key} (hkey : key ∈ request.entries) (h : Vacant db held key)
    (hagree : Agree db db' held) : Vacant db' held key :=
  ⟨h.1, hagree.has key h.1 (ne_intent_of_mem_entries hkey) h.2⟩

lemma commits_of_agree (h : Commits db held now request) (hagree : Agree db db' held) :
    Commits db' held now request := by
  refine ⟨h.administrative, owned_of_agree h.owned hagree,
    fun key hkey => vacant_of_agree hkey (h.entries key hkey) hagree, ?_⟩
  have hmay := h.mayFinish
  cases request with
  | consumeDemoIntentAndIssueKey secretHash apiKeyId keyPrefix keyHash =>
    obtain ⟨hheld, intent, hintent, hopen⟩ := h.owned
    simp only [DemoIntent.isOpen, Bool.and_eq_true, beq_iff_eq] at hopen
    have hthere : db.has (.intent secretHash) = true :=
      List.any_eq_true.mpr ⟨intent, hintent, beq_iff_eq.mpr hopen.1.1⟩
    refine List.all_eq_true.mpr fun other hother => ?_
    obtain ⟨hother, hsecret⟩ := List.mem_filter.mp hother
    have hbefore := hagree.others secretHash hheld hthere other hother (beq_iff_eq.mp hsecret)
    exact List.all_eq_true.mp hmay other (List.mem_filter.mpr ⟨hbefore, hsecret⟩)
  | _ => exact hmay

/-- A request keeps what it relies on if the rows that it holds are left. -/
lemma ready_of_agree (h : Ready db held call) (hagree : Agree db db' held) :
    Ready db' held call := by
  obtain ⟨request, phase⟩ := call
  refine ⟨h.1, ?_⟩
  have hrelies := h.2
  cases phase with
  | inserting now count =>
    exact ⟨owned_of_agree hrelies.1 hagree,
      fun key hkey => vacant_of_agree (List.mem_of_mem_take hkey) (hrelies.2 key hkey) hagree⟩
  | completed now => exact commits_of_agree hrelies hagree
  | _ => trivial

lemma agree_changeKeys {change : ApiKey → ApiKey} (hevolves : ∀ key, Evolves key (change key)) :
    Agree db { db with keys := db.keys.map change } held where
  has key _ _ hfree := (has_changeKeys hevolves key).trans hfree
  accounts _ _ := rfl
  intents _ _ _ hintent _ := hintent
  others _ _ _ _ hintent _ := hintent

/-- What others hold is left by the insertion of a key whose entries one holds. -/
lemma agree_insertKey {owner : Owner} {key : NewKey}
    (hagree : Agree db db' held') (hdisjoint : ∀ entry, held entry → ¬ held' entry)
    (hentries : ∀ entry ∈ [Key.apiKeyId key.apiKeyId, .keyPrefix key.keyPrefix,
      .keyHash key.keyHash], Vacant db held entry) :
    Agree db (insertKey now owner key db') held' where
  has entry hheld hintent hfree := by
    rw [has_insertKey fun hmem => hdisjoint entry (hentries entry hmem).1 hheld]
    exact hagree.has entry hheld hintent hfree
  accounts := hagree.accounts
  intents := hagree.intents
  others := hagree.others

lemma agree_refl : Agree db db held where
  has _ _ _ hfree := hfree
  accounts _ _ := rfl
  intents _ _ _ hintent _ := hintent
  others _ _ _ _ hintent _ := hintent

lemma agree_accounts {accountId : ℕ} {status : BrowserSessions.AccountStatus}
    (hheld : ¬ held (.account accountId))
    (haccounts : db'.accounts = Function.update db.accounts accountId (some status))
    (hconsumers : db'.consumers = db.consumers) (hkeys : db'.keys = db.keys)
    (hintents : db'.intents = db.intents) : Agree db db' held := by
  have hsame (other : ℕ) (hother : held (.account other)) :
      db'.accounts other = db.accounts other := by
    rw [haccounts]
    refine Function.update_of_ne ?_ _ _
    rintro rfl
    exact hheld hother
  refine ⟨fun entry hentry _ hfree => ?_, hsame, ?_, ?_⟩
  · cases entry with
    | account other =>
      rw [Db.has, hsame other hentry]
      exact hfree
    | consumer slug =>
      rw [Db.has, hconsumers]
      exact hfree
    | intent secretHash =>
      rw [Db.has, hintents]
      exact hfree
    | _ =>
      rw [Db.has, hkeys]
      exact hfree
  · rw [hintents]
    exact fun _ _ _ hintent _ => hintent
  · rw [hintents]
    exact fun _ _ _ _ hintent _ => hintent

/-- **What others hold is left by a commit.** -/
lemma agree_apply (hcommits : Commits db held now request)
    (hdisjoint : ∀ entry, held entry → ¬ held' entry) :
    Agree db (request.apply now db) held' := by
  obtain ⟨-, howned, hentries, -⟩ := hcommits
  cases request with
  | issueApiKey slug displayName category key =>
    refine agree_insertKey ⟨fun entry hheld _ hfree => ?_, fun _ _ => rfl,
      fun _ _ _ hintent _ => hintent, fun _ _ _ _ hintent _ => hintent⟩ hdisjoint hentries
    cases entry with
    | consumer other =>
      have hne : other ≠ slug := by
        rintro rfl
        exact hdisjoint _ howned hheld
      rw [Db.has]
      dsimp only
      rw [Function.update_of_ne hne]
      exact hfree
    | _ => exact hfree
  | issueAccountApiKey accountId key => exact agree_insertKey agree_refl hdisjoint hentries
  | consumeDemoIntentAndIssueKey secretHash apiKeyId keyPrefix keyHash =>
    have hleft {other : ℕ} (hheld : held' (.intent other)) : other ≠ secretHash := by
      rintro rfl
      exact hdisjoint _ howned.1 hheld
    refine agree_insertKey ⟨fun entry _ hintent hfree => ?_, fun _ _ => rfl, ?_, ?_⟩ hdisjoint
      hentries
    · cases entry with
      | intent other => exact absurd rfl (hintent other)
      | _ => exact hfree
    · intro other hheld intent hintent hsecret
      refine List.mem_map.mpr ⟨intent, hintent, ?_⟩
      rcases consume_cases secretHash now apiKeyId intent with ⟨hsame, -⟩ | ⟨-, heq⟩
      · exact absurd (hsecret.symm.trans hsame) (hleft hheld)
      · exact heq
    · intro other hheld _ intent hintent hsecret
      obtain ⟨before, hbefore, rfl⟩ := List.mem_map.mp hintent
      rcases consume_cases secretHash now apiKeyId before with ⟨hsame, -⟩ | ⟨-, heq⟩
      · have hbeforeSecret : before.secretHash = other :=
          (consume_secretHash secretHash now apiKeyId before).symm.trans hsecret
        exact absurd (hbeforeSecret.symm.trans hsame) (hleft hheld)
      · have hmem : consume secretHash now apiKeyId before ∈ db.intents := heq.symm ▸ hbefore
        exact hmem
  | signup accountId =>
    exact agree_accounts (hdisjoint _ (hentries (.account accountId) List.mem_cons_self).1)
      rfl rfl rfl rfl
  | setAccountStatus accountId status =>
    exact agree_accounts (hdisjoint _ howned.1) rfl rfl rfl rfl
  | _ => exact agree_refl

lemma agree_createDemoIntent (secretHash now : ℕ) :
    Agree db (createDemoIntent secretHash now db) held := by
  unfold createDemoIntent
  split
  · exact agree_refl
  rename_i hnew
  refine ⟨fun entry _ hintent hfree => ?_, fun _ _ => rfl, ?_, ?_⟩
  · cases entry with
    | intent other => exact absurd rfl (hintent other)
    | _ => exact hfree
  · exact fun _ _ _ hintent _ => List.mem_append_left _ hintent
  · intro other _ hthere intent hintent hsecret
    rcases List.mem_append.mp hintent with hintent | hintent
    · exact hintent
    · rw [List.mem_singleton.mp hintent] at hsecret
      dsimp only at hsecret
      subst hsecret
      exact absurd hthere hnew

end

/-! ### Runs -/

/-- A statement by itself keeps the data sound, can do what a commit can, and leaves what others
hold. -/
lemma statement_spec {call : Call} {row : ℕ → Db → Option Key} {write : ℕ → Db → Db}
    (haction : call.next = .statement row write) {db : Db} (h : Sound db) (now : ℕ) :
    Sound (write now db) ∧ Changes db (write now db) ∧ ∀ held, Agree db (write now db) held := by
  rcases next_statement haction with ⟨keyPrefix, rfl⟩ | ⟨secretHash, rfl⟩
  · obtain ⟨change, heq, hevolves⟩ := exists_change_revokeByPrefix keyPrefix now db
    rw [heq]
    exact ⟨sound_changeKeys h hevolves, changes_changeKeys hevolves,
      fun _ => agree_changeKeys hevolves⟩
  · exact ⟨sound_createDemoIntent h secretHash now, changes_createDemoIntent secretHash now db,
      fun _ => agree_createDemoIntent secretHash now⟩

lemma keeps (C : State Db Call Key → Choice Call → Prop) : Keeps protocol C Sound Ready where
  arrive db call _ hnew := by
    obtain ⟨request, phase⟩ := call
    simp only [protocol, Bool.and_eq_true, beq_iff_eq] at hnew
    obtain ⟨rfl, hadministrative⟩ := hnew
    exact ⟨hadministrative, trivial⟩
  read _ _ _ _ _ h haction := ready_read h haction
  begin _ _ _ _ _ _ h haction := ready_begin h haction
  take _ _ _ _ _ _ _ _ h haction _ := ready_access h haction (fun _ => .inr) fun _ => .inl rfl
  pass _ _ _ _ _ _ _ _ h haction htakes :=
    ready_access h haction (fun _ hheld => hheld) fun htakes' => absurd htakes' (by simp [htakes])
  commit s session call write h _ hcall haction := by
    obtain ⟨now, -, rfl, hcommits⟩ := next_commit haction
    exact sound_apply h.db (hcommits _ _ (h.sessions session call hcall))
  others s session call write h _ hcall haction other call' hne hother := by
    obtain ⟨now, -, rfl, hcommits⟩ := next_commit haction
    refine ready_of_agree (h.sessions other call' hother)
      (agree_apply (hcommits _ _ (h.sessions session call hcall)) ?_)
    exact fun _ hheld hheld' => hne (holds_unique hheld' hheld)
  statement s session call row write h _ _ haction := (statement_spec haction h.db s.clock).1
  others' s session call row write h _ _ haction other call' _ hother :=
    ready_of_agree (h.sessions other call' hother) ((statement_spec haction h.db s.clock).2.2 _)

/-- The data at first, before there are keys and intents. -/
def noKeys (accounts : ℕ → Option BrowserSessions.AccountStatus) (clients : ℕ → Option IbClient)
    (consumers : String → Option ApiConsumer)
    (accountGrants clientGrants : ℕ → List AccountGrantRow)
    (consumerGrants : String → List AccountGrantRow) : Db :=
  ⟨accounts, clients, consumers, accountGrants, clientGrants, consumerGrants, [], fun _ => none,
    fun _ => [], []⟩

section

variable {s s' t : State Db Call Key} {choices : List (Choice Call)}

/-- There are no keys and intents at first. -/
def Starts (s : State Db Call Key) : Prop :=
  ∃ accounts clients consumers accountGrants clientGrants consumerGrants clock, s = start
    (noKeys accounts clients consumers accountGrants clientGrants consumerGrants) clock

lemma inv_of_starts (h : Starts s) : Inv Sound Ready s := by
  obtain ⟨accounts, clients, consumers, accountGrants, clientGrants, consumerGrants, clock,
    rfl⟩ := h
  refine inv_start ⟨⟨List.nodup_nil, List.nodup_nil, List.nodup_nil, ?_, ?_, fun _ _ => rfl⟩,
    ⟨List.nodup_nil, ?_, ?_, ?_, ?_⟩⟩ clock <;> simp [noKeys]

/-- **One step** moves the clock on, and changes the data as a commit can. -/
theorem step_changes (h : Inv Sound Ready s) {c : Choice Call}
    (hstep : step protocol s c = some s') :
    s.clock ≤ s'.clock ∧ Changes s.db s'.db := by
  refine ⟨clock_le_of_step hstep, ?_⟩
  rcases db_of_step hstep with hdb | ⟨session, call, rfl, hcall, ⟨write, haction, hdb⟩ |
    ⟨row, write, haction, hdb⟩⟩
  · rw [hdb]
    exact changes_refl s.db
  · obtain ⟨now, -, rfl, hcommits⟩ := next_commit haction
    rw [hdb]
    exact changes_apply h.db (hcommits _ _ (h.sessions session call hcall))
  · rw [hdb]
    exact (statement_spec haction h.db s.clock).2.1

end

/-! ### Times -/

/-- The transaction has begun, if it has. -/
def Past (clock : ℕ) (call : Call) : Prop := ∀ now, timeOf call.phase = some now → now ≤ clock

section

variable {clock now : ℕ} {db : Db} {call : Call} {request : Request} {phase phase' : Phase}

lemma past_enter (h : Past clock ⟨request, phase⟩)
    (htime : timeOf phase' = timeOf phase ∨ timeOf phase' = none) :
    Past clock ⟨request, phase'⟩ := by
  intro now hnow
  rcases htime with htime | htime
  · exact h now (htime.symm.trans hnow)
  · cases htime.symm.trans hnow

lemma past_ite {found : Prop} [Decidable found] {other : Phase} (h : Past clock ⟨request, phase⟩)
    (hyes : timeOf phase' = timeOf phase ∨ timeOf phase' = none)
    (hno : timeOf other = timeOf phase ∨ timeOf other = none) :
    Past clock ⟨request, if found then phase' else other⟩ := by
  split
  · exact past_enter h hyes
  · exact past_enter h hno

lemma past_read {next : Db → Call} (h : Past clock call) (haction : call.next = .read next) :
    Past clock (next db) := by
  obtain ⟨request, phase⟩ := call
  cases phase with
  | begun now =>
    cases request with
    | signup =>
      cases haction
      exact past_enter h (.inl rfl)
    | _ => cases haction
  | inserting now count =>
    rcases next_inserting request now count with hnext | ⟨key, -, hnext⟩ |
      ⟨-, ⟨_, _, _, _, -, hnext⟩ | ⟨-, hnext⟩⟩ <;> cases hnext.symm.trans haction
  | arrived | conflicted => cases request <;> cases haction
  | _ => cases haction

lemma past_begin {next : ℕ → Call} (haction : call.next = .begin next) :
    Past clock (next clock) := by
  obtain ⟨request, phase⟩ := call
  cases phase with
  | arrived =>
    cases request with
    | createDemoIntent | revokeByPrefix => cases haction
    | _ =>
      cases haction
      rintro now ⟨⟩
      exact Nat.le_refl _
  | inserting now count =>
    rcases next_inserting request now count with hnext | ⟨key, -, hnext⟩ |
      ⟨-, ⟨_, _, _, _, -, hnext⟩ | ⟨-, hnext⟩⟩ <;> cases hnext.symm.trans haction
  | begun | conflicted => cases request <;> cases haction
  | _ => cases haction

lemma past_access {key : Key} {waits takes : Db → Bool} {next : Db → Call} (h : Past clock call)
    (haction : call.next = .access key waits takes next) : Past clock (next db) := by
  obtain ⟨request, phase⟩ := call
  cases phase with
  | arrived => cases request <;> cases haction
  | begun now =>
    cases request with
    | issueApiKey slug displayName category key =>
      cases haction
      beta_reduce
      split
      · exact past_enter h (.inr rfl)
      · exact past_ite h (.inl rfl) (.inl rfl)
    | issueAccountApiKey | consumeDemoIntentAndIssueKey | setAccountStatus =>
      cases haction
      exact past_ite h (.inl rfl) (.inr rfl)
    | _ => cases haction
  | conflicted now =>
    cases request with
    | issueApiKey slug displayName category key =>
      cases haction
      beta_reduce
      split
      · exact past_ite h (.inr rfl) (.inl rfl)
      · exact past_enter h (.inr rfl)
    | _ => cases haction
  | inserting now count =>
    rcases next_inserting request now count with hnext | ⟨_, hentry, hnext⟩ |
      ⟨hnone, ⟨secretHash, _, _, _, rfl, hnext⟩ | ⟨-, hnext⟩⟩
    · cases hnext.symm.trans haction
    · cases hnext.symm.trans haction
      exact past_ite h (.inr rfl) (.inl rfl)
    · cases hnext.symm.trans haction
      exact past_ite h (.inl rfl) (.inr rfl)
    · cases hnext.symm.trans haction
  | _ => cases haction

/-- No key was made ahead of the clock, or of its revocation. -/
def Made (clock : ℕ) (db : Db) : Prop :=
  ∀ key ∈ db.keys, key.createdAt ≤ clock ∧ key.createdAt ≤ key.revokedAt.getD clock

lemma made_apply (h : Made clock db) (hnow : now ≤ clock) : Made clock (request.apply now db) := by
  have hinsert {owner : Owner} {key : NewKey} {db' : Db} (hkeys : db'.keys = db.keys) :
      Made clock (insertKey now owner key db') := by
    intro other hother
    rw [insertKey_keys, hkeys, List.mem_append, List.mem_singleton] at hother
    rcases hother with hother | rfl
    · exact h other hother
    · exact ⟨hnow, hnow⟩
  cases request with
  | issueApiKey | issueAccountApiKey | consumeDemoIntentAndIssueKey => exact hinsert rfl
  | _ => exact h

lemma made_statement {row : ℕ → Db → Option Key} {write : ℕ → Db → Db} (h : Made clock db)
    (haction : call.next = .statement row write) : Made clock (write clock db) := by
  rcases next_statement haction with ⟨keyPrefix, rfl⟩ | ⟨secretHash, rfl⟩
  · unfold revokeByPrefix
    dsimp only
    split
    · rename_i hcheck
      intro key hkey
      obtain ⟨before, hbefore, rfl⟩ := List.mem_map.mp hkey
      split
      · rename_i hprefix
        have hrevoked := List.all_eq_true.mp hcheck before (List.mem_filter.mpr ⟨hbefore, hprefix⟩)
        exact ⟨(h before hbefore).1, of_decide_eq_true hrevoked⟩
      · exact h before hbefore
    · exact h
  · unfold createDemoIntent
    split <;> exact h

lemma keepsTime : KeepsTime protocol Made Past where
  later clock clock' _ hle h key hkey := by
    obtain ⟨hmade, hrevoked⟩ := h key hkey
    refine ⟨hmade.trans hle, ?_⟩
    cases htime : key.revokedAt with
    | none => exact hmade.trans hle
    | some time => rwa [htime] at hrevoked
  later' _ _ _ hle h now hnow := (h now hnow).trans hle
  arrive clock call hnew := by
    obtain ⟨request, phase⟩ := call
    simp only [protocol, Bool.and_eq_true, beq_iff_eq] at hnew
    obtain ⟨rfl, -⟩ := hnew
    rintro now ⟨⟩
  begin _ _ _ haction := past_begin haction
  read _ _ _ _ h haction := past_read h haction
  access _ _ _ _ _ _ _ h haction := past_access h haction
  commit _ _ call write h hpast haction := by
    obtain ⟨now, htime, rfl, -⟩ := next_commit haction
    exact made_apply h (hpast now htime)
  statement _ _ _ _ _ h haction := made_statement h haction

end

end MotherApi.ApiKeyLifecycle
