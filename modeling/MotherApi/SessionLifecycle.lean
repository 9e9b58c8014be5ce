import MotherApi.BrowserSessions
import MotherApi.Lib.TransactionTimes
import Mathlib.Data.List.Nodup

/-!
The life of a browser session, under requests that run side by side.

Whoever makes a session holds the row of its account, and so does whoever changes the status of the
account; both revoke the sessions that are there. So an account has at most one session that is not
revoked, and none unless it is active. A lookup moves the idle expiry of a session only while the
session is current, and never past the other expiry, which does not move. So a session that is not
current any more is never current again. No session was made ahead of the clock, so that the
statement of a revocation finds nothing that it may not revoke.
-/

namespace MotherApi.SessionLifecycle

open MotherApi.Lib.Runs MotherApi.Lib.Transactions MotherApi.BrowserSessions

/-! ### What can happen to sessions -/

/-- What a step at a time can make of a session. -/
structure Evolves (now : ℕ) (before after : BrowserSession) : Prop where
  accountId : after.accountId = before.accountId
  sessionHash : after.sessionHash = before.sessionHash
  createdAt : after.createdAt = before.createdAt
  expiresAt : after.expiresAt = before.expiresAt
  revokedAt : after.revokedAt = none → before.revokedAt = none
  idleExpiresAt : after.idleExpiresAt = before.idleExpiresAt ∨
    (now < before.idleExpiresAt ∧ after.idleExpiresAt ≤ before.expiresAt)

/-- The sessions evolve, and one may come in, with a hash of its own. -/
structure Changes (now : ℕ) (db : Db) (change : BrowserSession → BrowserSession)
    (new : Option BrowserSession) (db' : Db) : Prop where
  sessions : db'.sessions = db.sessions.map change ++ new.toList
  evolves : ∀ session ∈ db.sessions, Evolves now session (change session)
  isNew : ∀ session ∈ new, db.hasHash session.sessionHash = false ∧
    session.idleExpiresAt ≤ session.expiresAt

/-- What holds of the committed data. -/
structure Sound (db : Db) : Prop where
  hashes : (db.sessions.map (·.sessionHash)).Nodup
  single : ∀ accountId, (db.unrevoked accountId).length ≤ 1
  active : ∀ session ∈ db.sessions, session.revokedAt = none →
    db.accounts session.accountId = some .active
  idle : ∀ session ∈ db.sessions, session.idleExpiresAt ≤ session.expiresAt

lemma evolves_refl (now : ℕ) (session : BrowserSession) : Evolves now session session :=
  ⟨rfl, rfl, rfl, rfl, id, .inl rfl⟩

lemma evolves_revoke (now time : ℕ) (which : BrowserSession → Bool) (session : BrowserSession) :
    Evolves now session
      (if which session then { session with revokedAt := some time } else session) := by
  split
  · exact ⟨rfl, rfl, rfl, rfl, by simp, .inl rfl⟩
  · exact evolves_refl now session

lemma evolves_find {db : Db} (now sessionHash : ℕ) (session : BrowserSession) :
    Evolves now session (if isCurrent db sessionHash now session then
      { session with idleExpiresAt := min session.expiresAt (now + SESSION_IDLE_TTL_SECONDS) }
      else session) := by
  split
  · rename_i hcurrent
    simp only [isCurrent, Bool.and_eq_true, decide_eq_true_eq] at hcurrent
    exact ⟨rfl, rfl, rfl, rfl, id, .inr ⟨hcurrent.1.1.2, Nat.min_le_left _ _⟩⟩
  · exact evolves_refl now session

section

variable {now : ℕ} {db db' : Db} {change : BrowserSession → BrowserSession}
  {new : Option BrowserSession}

lemma Changes.mem (h : Changes now db change new db') {session : BrowserSession}
    (hsession : session ∈ db'.sessions) :
    (∃ before ∈ db.sessions, session = change before ∧ Evolves now before session) ∨
      session ∈ new := by
  rw [h.sessions, List.mem_append] at hsession
  rcases hsession with hsession | hsession
  · obtain ⟨before, hbefore, rfl⟩ := List.mem_map.mp hsession
    exact .inl ⟨before, hbefore, rfl, h.evolves before hbefore⟩
  · exact .inr (Option.mem_toList.mp hsession)

lemma Changes.hashes (h : Changes now db change new db')
    (hnodup : (db.sessions.map (·.sessionHash)).Nodup) :
    (db'.sessions.map (·.sessionHash)).Nodup := by
  have hsame : (db.sessions.map change).map (·.sessionHash) = db.sessions.map (·.sessionHash) := by
    rw [List.map_map]
    exact List.map_congr_left fun session hsession => (h.evolves session hsession).sessionHash
  rw [h.sessions, List.map_append, hsame, List.nodup_append_comm]
  cases new with
  | none => exact hnodup
  | some session =>
    refine List.nodup_cons.mpr ⟨?_, hnodup⟩
    have hnew := (h.isNew session rfl).1
    simpa [Db.hasHash] using hnew

lemma Changes.idle (h : Changes now db change new db')
    (hidle : ∀ session ∈ db.sessions, session.idleExpiresAt ≤ session.expiresAt) :
    ∀ session ∈ db'.sessions, session.idleExpiresAt ≤ session.expiresAt := by
  intro session hsession
  rcases h.mem hsession with ⟨before, hbefore, -, hevolves⟩ | hnew
  · have hle := hidle before hbefore
    have hexpires := hevolves.expiresAt
    rcases hevolves.idleExpiresAt with hsame | ⟨-, hlater⟩
    · omega
    · omega
  · exact (h.isNew session hnew).2

lemma Changes.unrevoked_le (h : Changes now db change new db') (accountId : ℕ) :
    (db'.unrevoked accountId).length ≤
      (db.unrevoked accountId).length + (new.toList.filter (isUnrevoked accountId)).length := by
  rw [Db.unrevoked, h.sessions, List.filter_append, List.length_append, Db.unrevoked]
  refine Nat.add_le_add_right ?_ _
  rw [← List.countP_eq_length_filter, ← List.countP_eq_length_filter, List.countP_map]
  refine List.countP_mono_left fun session hsession hunrevoked => ?_
  have hevolves := h.evolves session hsession
  simp only [Function.comp_apply, isUnrevoked, Bool.and_eq_true, beq_iff_eq,
    Option.isNone_iff_eq_none] at hunrevoked ⊢
  exact ⟨hevolves.accountId ▸ hunrevoked.1, hevolves.revokedAt hunrevoked.2⟩

lemma Changes.single (h : Changes now db change none db')
    (hsingle : ∀ accountId, (db.unrevoked accountId).length ≤ 1) (accountId : ℕ) :
    (db'.unrevoked accountId).length ≤ 1 := by
  have hle := h.unrevoked_le accountId
  have hone := hsingle accountId
  simp only [Option.toList_none, List.filter_nil, List.length_nil] at hle
  omega

lemma changes_mapSessions (hsessions : db'.sessions = db.sessions)
    (hevolves : ∀ session, Evolves now session (change session)) :
    Changes now db change none (db'.mapSessions change) := by
  refine ⟨?_, fun session _ => hevolves session, by simp⟩
  rw [Db.mapSessions, hsessions]
  exact (List.append_nil _).symm

end

/-! ### What a commit keeps -/

section

variable {now : ℕ} {db db' : Db} {change : BrowserSession → BrowserSession}

lemma sound_mapSessions (h : Sound db)
    (hevolves : ∀ session, Evolves now session (change session)) :
    Sound (db.mapSessions change) := by
  have hchanges := changes_mapSessions (Eq.refl db.sessions) hevolves
  refine ⟨hchanges.hashes h.hashes, hchanges.single h.single, ?_, hchanges.idle h.idle⟩
  intro session hsession hunrevoked
  rcases hchanges.mem hsession with ⟨before, hbefore, -, hevolves⟩ | hnew
  · rw [hevolves.accountId]
    exact h.active before hbefore (hevolves.revokedAt hunrevoked)
  · cases hnew

lemma unrevoked_revoke (now accountId : ℕ) (db : Db) :
    (revoke (isUnrevoked accountId) now db).unrevoked accountId = [] := by
  rw [Db.unrevoked, List.filter_eq_nil_iff]
  intro session hsession
  obtain ⟨before, -, rfl⟩ := List.mem_map.mp hsession
  split
  · simp [isUnrevoked]
  · assumption

/-- The sessions of an account are revoked before anything else is said of the account. -/
lemma sound_revoke {accountId : ℕ} (h : Sound db) (hsessions : db'.sessions = db.sessions)
    (haccounts : ∀ other, other ≠ accountId → db'.accounts other = db.accounts other) :
    Sound (revoke (isUnrevoked accountId) now db') := by
  have hchanges : Changes now db _ none (revoke (isUnrevoked accountId) now db') :=
    changes_mapSessions hsessions (evolves_revoke now now (isUnrevoked accountId))
  refine ⟨hchanges.hashes h.hashes, hchanges.single h.single, ?_, hchanges.idle h.idle⟩
  intro session hsession hunrevoked
  have hother : session.accountId ≠ accountId := by
    rintro rfl
    have hmem : session ∈ (revoke (isUnrevoked session.accountId) now db').unrevoked
        session.accountId := List.mem_filter.mpr ⟨hsession, by simp [isUnrevoked, hunrevoked]⟩
    rw [unrevoked_revoke] at hmem
    cases hmem
  rcases hchanges.mem hsession with ⟨before, hbefore, -, hevolves⟩ | hnew
  · have hactive := h.active before hbefore (hevolves.revokedAt hunrevoked)
    rw [← hevolves.accountId] at hactive
    exact (haccounts _ hother).trans hactive
  · cases hnew

lemma hasHash_mapSessions (hevolves : ∀ session, Evolves now session (change session))
    (sessionHash : ℕ) : (db.mapSessions change).hasHash sessionHash = db.hasHash sessionHash := by
  rw [Db.hasHash, Db.mapSessions, List.any_map, Db.hasHash]
  congr 1
  funext session
  rw [Function.comp_apply, (hevolves session).sessionHash]

lemma hasHash_revoke (which : BrowserSession → Bool) (now sessionHash : ℕ) (db : Db) :
    (revoke which now db).hasHash sessionHash = db.hasHash sessionHash :=
  hasHash_mapSessions (evolves_revoke now now which) sessionHash

/-- A session of an active account that has no other. -/
lemma sound_concat {session : BrowserSession} (h : Sound db)
    (hnone : db.unrevoked session.accountId = [])
    (hactive : db.accounts session.accountId = some .active)
    (hnew : db.hasHash session.sessionHash = false)
    (hidle : session.idleExpiresAt ≤ session.expiresAt) :
    Sound { db with sessions := db.sessions ++ [session] } := by
  have hchanges : Changes 0 db id (some session) { db with sessions := db.sessions ++ [session] } :=
    ⟨by rw [List.map_id]; rfl, fun session _ => evolves_refl 0 session,
      fun other hother => by cases hother; exact ⟨hnew, hidle⟩⟩
  refine ⟨hchanges.hashes h.hashes, ?_, ?_, hchanges.idle h.idle⟩
  · intro accountId
    have hle := hchanges.unrevoked_le accountId
    have hsingle := h.single accountId
    rw [Option.toList_some] at hle
    by_cases hsame : session.accountId = accountId
    · have hone := List.length_filter_le (isUnrevoked accountId) [session]
      rw [← hsame, hnone, List.length_nil] at hle
      rw [← hsame, List.length_singleton] at hone
      rw [← hsame]
      omega
    · have hfilter : [session].filter (isUnrevoked accountId) = [] := by simp [isUnrevoked, hsame]
      rw [hfilter, List.length_nil] at hle
      omega
  · intro other hother hunrevoked
    rcases List.mem_append.mp hother with hother | hother
    · exact h.active other hother hunrevoked
    · rw [List.mem_singleton.mp hother]
      exact hactive

lemma idle_newSession (now : ℕ) {accountId identityId sessionHash csrfHash : ℕ} :
    (newSession now accountId identityId sessionHash csrfHash).idleExpiresAt ≤
      (newSession now accountId identityId sessionHash csrfHash).expiresAt := by
  simp only [newSession, SESSION_IDLE_TTL_SECONDS, SESSION_ABSOLUTE_TTL_SECONDS]
  omega

/-- **Creating a session keeps the data sound.** -/
theorem sound_createSession {accountId identityId sessionHash csrfHash : ℕ} (h : Sound db)
    (hsessions : db'.sessions = db.sessions)
    (haccounts : ∀ other, other ≠ accountId → db'.accounts other = db.accounts other)
    (hactive : db'.accounts accountId = some .active) (hnew : db.hasHash sessionHash = false) :
    Sound (createSession now accountId identityId sessionHash csrfHash db') := by
  refine sound_concat (sound_revoke h hsessions haccounts) (unrevoked_revoke now accountId db')
    hactive ?_ ?_
  · rw [hasHash_revoke, Db.hasHash, hsessions]
    exact hnew
  · exact idle_newSession now

end

/-! ### What a request relies on -/

/-- What a request has found of the account whose row it holds. -/
def Expects (db : Db) (accountId : ℕ) : Request → Prop
  | .signup _ newId _ _ _ _ => accountId = newId ∧ db.accounts accountId = none
  | .login _ _ _ => db.accounts accountId = some .active
  | .setAccountStatus id _ => accountId = id
  | _ => False

def Holding (db : Db) (held : Key → Prop) (request : Request) (accountId : ℕ) : Prop :=
  held (.account accountId) ∧ Expects db accountId request

/-- The hash of the session that a request makes. -/
def newHash : Request → Option ℕ
  | .signup _ _ _ _ sessionHash _ | .login _ sessionHash _ => some sessionHash
  | _ => none

/-- What a request relies on in its phase. -/
def Ready (db : Db) (held : Key → Prop) (call : Call) : Prop :=
  match call.phase with
  | .accountInserted _ accountId | .identityInserted _ accountId | .accountLocked _ accountId
  | .revoked _ accountId => Holding db held call.request accountId
  | .inserted _ accountId => Holding db held call.request accountId ∧
    ∃ sessionHash, newHash call.request = some sessionHash ∧ held (.sessionHash sessionHash) ∧
      db.hasHash sessionHash = false
  | _ => True

/-- A write under an account, with what it relies on. -/
structure Commits (db : Db) (held : Key → Prop) (request : Request) (now accountId : ℕ) : Prop where
  holding : Holding db held request accountId
  entry : ∀ sessionHash, newHash request = some sessionHash →
    held (.sessionHash sessionHash) ∧ db.hasHash sessionHash = false

section

variable {db : Db} {held : Key → Prop} {call : Call}

lemma next_commit {write : Db → Db} (h : Ready db held call) (haction : call.next = .commit write) :
    ∃ now accountId, write = (fun db => call.request.apply now accountId db) ∧
      Commits db held call.request now accountId := by
  obtain ⟨request, phase⟩ := call
  cases phase with
  | revoked now accountId =>
    cases request with
    | setAccountStatus id status =>
      cases haction
      exact ⟨now, accountId, rfl, h, by simp [newHash]⟩
    | _ => cases haction
  | inserted now accountId =>
    cases haction
    obtain ⟨hholding, sessionHash, hhash, hentry⟩ := h
    refine ⟨now, accountId, rfl, hholding, ?_⟩
    intro other hother
    obtain rfl : sessionHash = other := Option.some.inj (hhash.symm.trans hother)
    exact hentry
  | arrived | begun | vacant | accountInserted | identityInserted | identityLocked =>
    cases request <;> cases haction
  | _ => cases haction

lemma next_statement {row : ℕ → Db → Option Key} {write : ℕ → Db → Db}
    (haction : call.next = .statement row write) :
    ∃ sessionHash, write = (fun now db => (findSession sessionHash now db).1) ∨
      write = revokeSession sessionHash := by
  obtain ⟨request, phase⟩ := call
  cases phase with
  | arrived =>
    cases request with
    | findSession sessionHash =>
      cases haction
      exact ⟨sessionHash, .inl rfl⟩
    | revokeSession sessionHash =>
      cases haction
      exact ⟨sessionHash, .inr rfl⟩
    | _ => cases haction
  | begun | vacant | accountInserted | identityInserted | identityLocked | revoked =>
    cases request <;> cases haction
  | _ => cases haction

/-- **A commit keeps the data sound.** -/
theorem sound_apply {request : Request} {now accountId : ℕ} (h : Sound db)
    (hcommits : Commits db held request now accountId) :
    Sound (request.apply now accountId db) := by
  obtain ⟨⟨-, hexpects⟩, hentry⟩ := hcommits
  cases request with
  | signup email newId identityId passwordHash sessionHash csrfHash =>
    refine sound_createSession h rfl ?_ (Function.update_self _ _ _) (hentry sessionHash rfl).2
    intro other hother
    exact Function.update_of_ne hother _ _
  | login identityId sessionHash csrfHash =>
    exact sound_createSession h rfl (fun _ _ => rfl) hexpects (hentry sessionHash rfl).2
  | setAccountStatus id status =>
    refine sound_revoke h rfl ?_
    intro other hother
    exact Function.update_of_ne hother _ _
  | _ => exact hexpects.elim

/-! ### What a statement finds -/

/-- A phase in which a request relies on nothing. -/
def Phase.IsFree : Phase → Prop
  | .arrived | .begun _ | .existing _ | .vacant _ | .identityLocked _ _ | .refused => True
  | _ => False

lemma ready_of_isFree {phase : Phase} (h : Phase.IsFree phase) :
    Ready db held (call.enter phase) := by
  cases phase <;> trivial

lemma ready_read {next : Db → Call} (haction : call.next = .read next) :
    Ready db held (next db) := by
  obtain ⟨request, phase⟩ := call
  cases phase with
  | begun now =>
    cases request with
    | signup email =>
      cases haction
      refine ready_of_isFree ?_
      cases db.emails email <;> trivial
    | _ => cases haction
  | arrived | vacant | accountInserted | identityInserted | identityLocked | revoked =>
    cases request <;> cases haction
  | _ => cases haction

lemma ready_begin {next : ℕ → Call} {now : ℕ} (haction : call.next = .begin next) :
    Ready db held (next now) := by
  obtain ⟨request, phase⟩ := call
  cases phase with
  | arrived =>
    cases request with
    | findSession | revokeSession => cases haction
    | _ =>
      cases haction
      exact ready_of_isFree trivial
  | begun | vacant | accountInserted | identityInserted | identityLocked | revoked =>
    cases request <;> cases haction
  | _ => cases haction

lemma active_of_loginAccount {identityId accountId : ℕ}
    (h : loginAccount db identityId = some accountId) : db.accounts accountId = some .active := by
  obtain ⟨identity, -, h⟩ := Option.bind_eq_some_iff.mp h
  split at h
  · rename_i hlogin
    cases h
    exact hlogin.2.2
  · cases h

/-- A statement on a row leaves a request with what it relies on: the rows that it had, and the row
that it takes. -/
lemma ready_access {held' : Key → Prop} {key : Key} {waits takes : Db → Bool} {next : Db → Call}
    (h : Ready db held call) (haction : call.next = .access key waits takes next)
    (hkeep : ∀ other, held other → held' other) (hheld : takes db = true → held' key) :
    Ready db held' (next db) := by
  obtain ⟨request, phase⟩ := call
  cases phase with
  | arrived => cases request <;> cases haction
  | begun now =>
    cases request with
    | login identityId =>
      cases haction
      refine ready_of_isFree ?_
      cases loginAccount db identityId <;> trivial
    | setAccountStatus accountId status =>
      cases haction
      beta_reduce
      split
      · rename_i hexists
        exact ⟨hheld hexists, rfl⟩
      · exact ready_of_isFree trivial
    | _ => cases haction
  | existing =>
    cases haction
    exact ready_of_isFree trivial
  | vacant now =>
    cases request with
    | signup email accountId =>
      cases haction
      beta_reduce at hheld ⊢
      split
      · exact ready_of_isFree trivial
      · rename_i hvacant
        have hnone : db.accounts accountId = none := by simpa using hvacant
        exact ⟨hheld (by simpa using hnone), rfl, hnone⟩
    | _ => cases haction
  | accountInserted | identityInserted =>
    cases request with
    | signup =>
      cases haction
      beta_reduce
      split
      · exact ready_of_isFree trivial
      · exact ⟨hkeep _ h.1, h.2⟩
    | _ => cases haction
  | identityLocked now accountId =>
    cases request with
    | login identityId =>
      cases haction
      beta_reduce
      split
      · rename_i hlogin
        exact ⟨hheld hlogin, active_of_loginAccount (beq_iff_eq.mp hlogin)⟩
      · exact ready_of_isFree trivial
    | _ => cases haction
  | accountLocked =>
    cases haction
    beta_reduce
    split
    · exact ⟨hkeep _ h.1, h.2⟩
    · exact ready_of_isFree trivial
  | revoked =>
    cases request with
    | signup | login =>
      cases haction
      beta_reduce at hheld ⊢
      split
      · exact ready_of_isFree trivial
      · rename_i hnew
        exact ⟨⟨hkeep _ h.1, h.2⟩, _, rfl, hheld (by simpa using hnew), Bool.eq_false_iff.mpr hnew⟩
    | _ => cases haction
  | _ => cases haction

/-! ### The others -/

lemma expects_of_accounts {db' : Db} {accountId : ℕ} {request : Request}
    (h : Expects db accountId request) (hsame : db'.accounts accountId = db.accounts accountId) :
    Expects db' accountId request := by
  cases request with
  | signup => exact ⟨h.1, hsame.trans h.2⟩
  | login => exact hsame.trans h
  | _ => exact h

/-- A request keeps what it relies on if the rows that it holds are left. -/
lemma ready_of_frame {db' : Db} (h : Ready db held call)
    (haccounts : ∀ accountId, held (.account accountId) →
      db'.accounts accountId = db.accounts accountId)
    (hhashes : ∀ sessionHash, held (.sessionHash sessionHash) →
      db'.hasHash sessionHash = db.hasHash sessionHash) : Ready db' held call := by
  have hholding {accountId : ℕ} (hholding : Holding db held call.request accountId) :
      Holding db' held call.request accountId :=
    ⟨hholding.1, expects_of_accounts hholding.2 (haccounts accountId hholding.1)⟩
  obtain ⟨request, phase⟩ := call
  cases phase with
  | accountInserted | identityInserted | accountLocked | revoked => exact hholding h
  | inserted now accountId =>
    obtain ⟨hheld, sessionHash, hhash, hentry, hnew⟩ := h
    exact ⟨hholding hheld, sessionHash, hhash, hentry, (hhashes sessionHash hentry).trans hnew⟩
  | _ => trivial

/-- A write under an account leaves the other accounts. -/
lemma apply_accounts {request : Request} {now accountId other : ℕ} (hother : other ≠ accountId) :
    (request.apply now accountId db).accounts other = db.accounts other := by
  cases request with
  | signup | setAccountStatus => exact Function.update_of_ne hother _ _
  | _ => rfl

lemma hasHash_createSession {now accountId identityId sessionHash csrfHash other : ℕ}
    (hne : sessionHash ≠ other) :
    (createSession now accountId identityId sessionHash csrfHash db).hasHash other =
      db.hasHash other := by
  rw [Db.hasHash, createSession, List.any_append, ← Db.hasHash, hasHash_revoke]
  simp [newSession, hne]

lemma apply_hasHash {request : Request} {now accountId other : ℕ}
    (hne : ∀ sessionHash, newHash request = some sessionHash → sessionHash ≠ other) :
    (request.apply now accountId db).hasHash other = db.hasHash other := by
  cases request with
  | signup | login => exact hasHash_createSession (hne _ rfl)
  | setAccountStatus => exact hasHash_revoke _ _ _ _
  | _ => rfl

lemma changes_createSession {db' : Db} {now accountId identityId sessionHash csrfHash : ℕ}
    (hsessions : db'.sessions = db.sessions) (hnew : db.hasHash sessionHash = false) (time : ℕ) :
    ∃ change new, Changes time db change new
      (createSession now accountId identityId sessionHash csrfHash db') := by
  refine ⟨_, some (newSession now accountId identityId sessionHash csrfHash), ?_,
    fun session _ => evolves_revoke time now (isUnrevoked accountId) session, ?_⟩
  · rw [createSession, revoke, Db.mapSessions, hsessions]
    rfl
  · rintro session ⟨⟩
    exact ⟨hnew, idle_newSession now⟩

lemma changes_apply {request : Request} {now accountId : ℕ}
    (h : Commits db held request now accountId) (time : ℕ) :
    ∃ change new, Changes time db change new (request.apply now accountId db) := by
  cases request with
  | signup | login =>
    refine changes_createSession ?_ (h.entry _ rfl).2 time
    rfl
  | setAccountStatus =>
    refine ⟨_, none, changes_mapSessions ?_ (evolves_revoke time now (isUnrevoked accountId))⟩
    rfl
  | _ => exact h.holding.2.elim

/-- A statement by itself leaves the accounts, and changes the sessions one by one. -/
lemma statement_mapSessions {row : ℕ → Db → Option Key} {write : ℕ → Db → Db}
    (haction : call.next = .statement row write) (now : ℕ) (db : Db) :
    ∃ change, write now db = db.mapSessions change ∧
      ∀ session, Evolves now session (change session) := by
  obtain ⟨sessionHash, rfl | rfl⟩ := next_statement haction
  · exact ⟨_, rfl, evolves_find now sessionHash⟩
  · by_cases hrevocable : revocable (hasUnrevokedHash sessionHash) now db
    · refine ⟨_, ?_, evolves_revoke now now (hasUnrevokedHash sessionHash)⟩
      rw [revokeSession, if_pos hrevocable, revoke]
    · refine ⟨id, ?_, evolves_refl now⟩
      rw [revokeSession, if_neg hrevocable, Db.mapSessions, List.map_id]

end

/-! ### Times -/

/-- The time at which the transaction began. -/
def timeOf : Phase → Option ℕ
  | .begun now | .vacant now | .accountInserted now _ | .identityInserted now _
  | .identityLocked now _ | .accountLocked now _ | .revoked now _ | .inserted now _ => some now
  | _ => none

/-- The transaction has begun, if it has. -/
def Past (clock : ℕ) (call : Call) : Prop := ∀ now, timeOf call.phase = some now → now ≤ clock

/-- No session was made ahead of the clock. -/
def Made (clock : ℕ) (db : Db) : Prop := ∀ session ∈ db.sessions, session.createdAt ≤ clock

section

variable {clock now accountId : ℕ} {db : Db} {call : Call} {request : Request}
  {phase phase' other : Phase}

lemma past_enter (h : Past clock call)
    (htime : timeOf phase = timeOf call.phase ∨ timeOf phase = none) :
    Past clock (call.enter phase) := by
  intro now hnow
  rcases htime with htime | htime
  · exact h now (htime.symm.trans hnow)
  · cases htime.symm.trans hnow

lemma past_ite {found : Prop} [Decidable found] (h : Past clock call)
    (hyes : timeOf phase = timeOf call.phase ∨ timeOf phase = none)
    (hno : timeOf other = timeOf call.phase ∨ timeOf other = none) :
    Past clock (call.enter (if found then phase else other)) := by
  split
  · exact past_enter h hyes
  · exact past_enter h hno

lemma past_read {next : Db → Call} (h : Past clock call) (haction : call.next = .read next) :
    Past clock (next db) := by
  obtain ⟨request, phase⟩ := call
  cases phase with
  | begun now =>
    cases request with
    | signup email =>
      cases haction
      beta_reduce
      cases db.emails email with
      | none => exact past_enter h (.inl rfl)
      | some identityId => exact past_enter h (.inr rfl)
    | _ => cases haction
  | arrived | vacant | accountInserted | identityInserted | identityLocked | revoked =>
    cases request <;> cases haction
  | _ => cases haction

lemma past_begin {next : ℕ → Call} (haction : call.next = .begin next) :
    Past clock (next clock) := by
  obtain ⟨request, phase⟩ := call
  cases phase with
  | arrived =>
    cases request with
    | findSession | revokeSession => cases haction
    | _ =>
      cases haction
      rintro now ⟨⟩
      exact Nat.le_refl _
  | begun | vacant | accountInserted | identityInserted | identityLocked | revoked =>
    cases request <;> cases haction
  | _ => cases haction

lemma past_access {key : Key} {waits takes : Db → Bool} {next : Db → Call} (h : Past clock call)
    (haction : call.next = .access key waits takes next) : Past clock (next db) := by
  obtain ⟨request, phase⟩ := call
  cases phase with
  | arrived => cases request <;> cases haction
  | begun now =>
    cases request with
    | login identityId =>
      cases haction
      beta_reduce
      cases loginAccount db identityId with
      | none => exact past_enter h (.inr rfl)
      | some accountId => exact past_enter h (.inl rfl)
    | setAccountStatus =>
      cases haction
      exact past_ite h (.inl rfl) (.inr rfl)
    | _ => cases haction
  | existing =>
    cases haction
    exact past_ite h (.inr rfl) (.inr rfl)
  | accountLocked =>
    cases haction
    exact past_ite h (.inl rfl) (.inr rfl)
  | vacant | accountInserted | identityInserted =>
    cases request with
    | signup =>
      cases haction
      exact past_ite h (.inr rfl) (.inl rfl)
    | _ => cases haction
  | revoked =>
    cases request with
    | signup | login =>
      cases haction
      exact past_ite h (.inr rfl) (.inl rfl)
    | _ => cases haction
  | identityLocked =>
    cases request with
    | login =>
      cases haction
      exact past_ite h (.inl rfl) (.inr rfl)
    | _ => cases haction
  | _ => cases haction

lemma commit_time {write : Db → Db} (haction : call.next = .commit write) :
    ∃ now accountId, timeOf call.phase = some now ∧
      write = fun db => call.request.apply now accountId db := by
  obtain ⟨request, phase⟩ := call
  cases phase with
  | revoked now accountId =>
    cases request with
    | setAccountStatus =>
      cases haction
      exact ⟨now, accountId, rfl, rfl⟩
    | _ => cases haction
  | inserted now accountId =>
    cases haction
    exact ⟨now, accountId, rfl, rfl⟩
  | arrived | begun | vacant | accountInserted | identityInserted | identityLocked =>
    cases request <;> cases haction
  | _ => cases haction

lemma made_mapSessions {change : BrowserSession → BrowserSession} (h : Made clock db)
    (hevolves : ∀ session, Evolves now session (change session)) :
    Made clock (db.mapSessions change) := by
  intro session hsession
  obtain ⟨before, hbefore, rfl⟩ := List.mem_map.mp hsession
  rw [(hevolves before).createdAt]
  exact h before hbefore

lemma made_apply (h : Made clock db) (hnow : now ≤ clock) :
    Made clock (request.apply now accountId db) := by
  have hrevoke {db' : Db} (hsessions : db'.sessions = db.sessions) :
      Made clock (revoke (isUnrevoked accountId) now db') := by
    refine made_mapSessions ?_ (evolves_revoke now now (isUnrevoked accountId))
    rw [Made, hsessions]
    exact h
  have hcreate {db' : Db} {identityId sessionHash csrfHash : ℕ}
      (hsessions : db'.sessions = db.sessions) :
      Made clock (createSession now accountId identityId sessionHash csrfHash db') := by
    intro session hsession
    rcases List.mem_append.mp hsession with hsession | hsession
    · exact hrevoke hsessions session hsession
    · rw [List.mem_singleton.mp hsession]
      exact hnow
  cases request with
  | signup | login => exact hcreate rfl
  | setAccountStatus => exact hrevoke rfl
  | _ => exact h

lemma keepsTime : KeepsTime protocol Made Past where
  later _ _ _ hle h session hsession := Nat.le_trans (h session hsession) hle
  later' _ _ _ hle h now hnow := Nat.le_trans (h now hnow) hle
  arrive clock call hnew := by
    obtain ⟨request, phase⟩ := call
    obtain rfl : phase = .arrived := by simpa [protocol] using hnew
    rintro now ⟨⟩
  begin _ _ _ haction := past_begin haction
  read _ _ _ _ h haction := past_read h haction
  access _ _ _ _ _ _ _ h haction := past_access h haction
  commit _ _ call write h hpast haction := by
    obtain ⟨now, accountId, htime, rfl⟩ := commit_time haction
    exact made_apply h (hpast now htime)
  statement clock db _ _ _ h haction := by
    obtain ⟨change, hwrite, hevolves⟩ := statement_mapSessions haction clock db
    rw [hwrite]
    exact made_mapSessions h hevolves

/-- Nothing that was made ahead of the clock keeps a session from its revocation. -/
lemma revokeSession_of_made (h : Made clock db) (sessionHash : ℕ) :
    revokeSession sessionHash clock db = revoke (hasUnrevokedHash sessionHash) clock db := by
  rw [revokeSession, if_pos]
  refine List.all_eq_true.mpr fun session hsession => ?_
  exact decide_eq_true (h session (List.mem_filter.mp hsession).1)

end

/-! ### Runs -/

lemma keeps (C : State Db Call Key → Choice Call → Prop) : Keeps protocol C Sound Ready where
  arrive db call _ hnew := by
    obtain ⟨request, phase⟩ := call
    obtain rfl : phase = .arrived := by simpa [protocol] using hnew
    trivial
  read _ _ _ _ _ _ haction := ready_read haction
  begin _ _ _ _ _ _ _ haction := ready_begin haction
  take _ _ _ _ _ _ _ _ h haction _ := ready_access h haction (fun _ => .inr) fun _ => .inl rfl
  pass _ _ _ _ _ _ _ _ h haction htakes :=
    ready_access h haction (fun _ hheld => hheld) fun htakes' => absurd htakes' (by simp [htakes])
  commit s session call write h _ hcall haction := by
    obtain ⟨now, accountId, rfl, hcommits⟩ := next_commit (h.sessions session call hcall) haction
    exact sound_apply h.db hcommits
  others s session call write h _ hcall haction other call' hne hother := by
    obtain ⟨now, accountId, rfl, hcommits⟩ := next_commit (h.sessions session call hcall) haction
    refine ready_of_frame (h.sessions other call' hother) ?_ ?_
    · intro otherId hheld
      refine apply_accounts ?_
      rintro rfl
      exact hne (holds_unique hheld hcommits.holding.1)
    · intro otherHash hheld
      refine apply_hasHash ?_
      rintro sessionHash hhash rfl
      exact hne (holds_unique hheld (hcommits.entry sessionHash hhash).1)
  statement s session call row write h _ _ haction := by
    obtain ⟨change, hwrite, hevolves⟩ := statement_mapSessions haction s.clock s.db
    rw [hwrite]
    exact sound_mapSessions h.db hevolves
  others' s session call row write h _ _ haction other call' _ hother := by
    obtain ⟨change, hwrite, hevolves⟩ := statement_mapSessions haction s.clock s.db
    rw [hwrite]
    exact ready_of_frame (h.sessions other call' hother) (fun _ _ => rfl)
      fun sessionHash _ => hasHash_mapSessions hevolves sessionHash

/-- The accounts that are there at first, without a session. -/
def noSessions (accounts : ℕ → Option AccountStatus) (identities : ℕ → Option AccountIdentity)
    (emails : ℕ → Option ℕ) : Db :=
  ⟨accounts, identities, emails, []⟩

lemma sound_noSessions (accounts : ℕ → Option AccountStatus)
    (identities : ℕ → Option AccountIdentity) (emails : ℕ → Option ℕ) :
    Sound (noSessions accounts identities emails) :=
  ⟨List.nodup_nil, fun _ => Nat.zero_le _, by simp [noSessions], by simp [noSessions]⟩

section

variable {s s' t : State Db Call Key} {choices : List (Choice Call)}

/-- **One step** moves the clock on, and the sessions evolve. -/
theorem step_changes (h : Inv Sound Ready s) {c : Choice Call}
    (hstep : step protocol s c = some s') :
    s.clock ≤ s'.clock ∧ ∃ change new, Changes s.clock s.db change new s'.db := by
  refine ⟨clock_le_of_step hstep, ?_⟩
  have hsame (change : BrowserSession → BrowserSession)
      (hevolves : ∀ session, Evolves s.clock session (change session))
      (hdb : s'.db = s.db.mapSessions change) :
      ∃ change new, Changes s.clock s.db change new s'.db :=
    ⟨change, none, hdb ▸ changes_mapSessions rfl hevolves⟩
  rcases db_of_step hstep with hdb | ⟨session, call, rfl, hcall, ⟨write, haction, hdb⟩ |
    ⟨row, write, haction, hdb⟩⟩
  · refine hsame id (evolves_refl s.clock) ?_
    rw [hdb, Db.mapSessions, List.map_id]
  · obtain ⟨now, accountId, rfl, hcommits⟩ := next_commit (h.sessions session call hcall) haction
    rw [hdb]
    exact changes_apply hcommits s.clock
  · obtain ⟨change, hwrite, hevolves⟩ := statement_mapSessions haction s.clock s.db
    exact hsame change hevolves (hdb.trans hwrite)

/-- The session cannot be used any more. -/
def Over (clock : ℕ) (session : BrowserSession) : Prop :=
  session.revokedAt ≠ none ∨ session.expiresAt ≤ clock ∨ session.idleExpiresAt ≤ clock

lemma over_of_evolves {clock clock' : ℕ} {before after : BrowserSession} (h : Over clock before)
    (hevolves : Evolves clock before after) (hclock : clock ≤ clock') : Over clock' after := by
  rcases h with hrevoked | hexpired | hidle
  · exact .inl fun hnone => hrevoked (hevolves.revokedAt hnone)
  · have hsame := hevolves.expiresAt
    exact .inr (.inl (by omega))
  · rcases hevolves.idleExpiresAt with hsame | ⟨hlater, -⟩
    · exact .inr (.inr (by omega))
    · omega

/-- The session goes on as another: under its hash, with its expiry, and over if it was. -/
structure GoesOn (clock clock' : ℕ) (before after : BrowserSession) : Prop where
  sessionHash : after.sessionHash = before.sessionHash
  expiresAt : after.expiresAt = before.expiresAt
  staysOver : Over clock before → Over clock' after

/-- **A run** keeps every session, with its expiry, and over if it was. -/
theorem goesOn_of_run (h : Inv Sound Ready s) {session : BrowserSession}
    (hsession : session ∈ s.db.sessions) (hrun : run (step protocol) s choices = some t) :
    Inv Sound Ready t ∧ ∃ after ∈ t.db.sessions, GoesOn s.clock t.clock session after := by
  refine inv_of_run (fun t => Inv Sound Ready t ∧
    ∃ after ∈ t.db.sessions, GoesOn s.clock t.clock session after) ?_ ?_ hrun
  · rintro t c t' ⟨hinv, after, hafter, hgoes⟩ hstep
    obtain ⟨hclock, change, new, hchanges⟩ := step_changes hinv hstep
    have hevolves := hchanges.evolves after hafter
    refine ⟨(keeps fun _ _ => True).step c hinv trivial hstep, change after, ?_, ?_⟩
    · rw [hchanges.sessions]
      exact List.mem_append_left _ (List.mem_map_of_mem hafter)
    · exact ⟨hevolves.sessionHash.trans hgoes.sessionHash,
        hevolves.expiresAt.trans hgoes.expiresAt,
        fun hover => over_of_evolves (hgoes.staysOver hover) hevolves hclock⟩
  · exact ⟨h, session, hsession, rfl, rfl, id⟩

/-! ### Lookups -/

lemma accepted_of_findSession {db : Db} {sessionHash now : ℕ} {lookup : BrowserSessionLookup}
    (h : (findSession sessionHash now db).2 = some lookup) :
    ∃ session ∈ db.sessions, session.sessionHash = sessionHash ∧ session.revokedAt = none ∧
      now < session.expiresAt ∧ now < session.idleExpiresAt ∧
      db.accounts session.accountId = some .active ∧ ∃ identity,
        db.identities session.identityId = some identity ∧ identity.status ≠ .disabled := by
  obtain ⟨session, hfound, -⟩ := Option.map_eq_some_iff.mp h
  refine ⟨session, List.mem_of_find?_eq_some hfound, ?_⟩
  have hcurrent := List.find?_some hfound
  simp only [isCurrent, Bool.and_eq_true, beq_iff_eq, decide_eq_true_eq,
    Option.isNone_iff_eq_none] at hcurrent
  obtain ⟨⟨⟨⟨⟨hhash, hrevoked⟩, hexpires⟩, hidle⟩, haccount⟩, hidentity⟩ := hcurrent
  obtain ⟨identity, hidentity, hstatus⟩ := Option.any_eq_true _ _ |>.mp hidentity
  exact ⟨hhash, hrevoked, hexpires, hidle, haccount, identity, hidentity, by simpa using hstatus⟩

lemma findSession_of_over {db : Db} {now : ℕ} {session : BrowserSession} (h : Sound db)
    (hsession : session ∈ db.sessions) (hover : Over now session) :
    (findSession session.sessionHash now db).2 = none := by
  cases hlookup : (findSession session.sessionHash now db).2 with
  | none => rfl
  | some lookup =>
    obtain ⟨other, hother, hhash, hrevoked, hexpires, hidle, -⟩ := accepted_of_findSession hlookup
    obtain rfl := List.inj_on_of_nodup_map h.hashes hother hsession hhash
    rcases hover with hover | hover | hover
    · exact absurd hrevoked hover
    · omega
    · omega

lemma never_accepted (h : Inv Sound Ready s) {session : BrowserSession}
    (hsession : session ∈ s.db.sessions) (hover : Over s.clock session)
    (hrun : run (step protocol) s choices = some t) :
    (findSession session.sessionHash t.clock t.db).2 = none := by
  obtain ⟨hinv, after, hafter, hgoes⟩ := goesOn_of_run h hsession hrun
  rw [← hgoes.sessionHash]
  exact findSession_of_over hinv.db hafter (hgoes.staysOver hover)

/-- The statement of `revoke_session` revokes the session, unless it has to wait. -/
lemma revoked_of_step (htimely : Timely Made Past s) {client : ℕ} {session : BrowserSession}
    (hsession : session ∈ s.db.sessions)
    (hcall : s.sessions client = some ⟨.revokeSession session.sessionHash, .arrived⟩)
    (hstep : step protocol s (.advance client) = some s') :
    ∃ after ∈ s'.db.sessions, after.sessionHash = session.sessionHash ∧
      after.revokedAt ≠ none := by
  have hdb : s'.db = revokeSession session.sessionHash s.clock s.db := by
    rw [step, hcall, Option.bind_some] at hstep
    change perform s client (.statement _ (revokeSession session.sessionHash)) = _ at hstep
    rw [perform] at hstep
    split at hstep <;> cases hstep
    rfl
  rw [hdb, revokeSession_of_made htimely.db]
  refine ⟨_, List.mem_map_of_mem hsession, ?_⟩
  by_cases hrevoked : session.revokedAt = none
  · simp [hasUnrevokedHash, hrevoked]
  · simp [hasUnrevokedHash, hrevoked]

/-! ### The lifecycle -/

/-- What is promised of the sessions in a state, and in all that follow. -/
structure Lifecycle (s : State Db Call Key) : Prop where
  single : ∀ accountId, (s.db.unrevoked accountId).length ≤ 1
  idle : ∀ session ∈ s.db.sessions, session.idleExpiresAt ≤ session.expiresAt
  expires : ∀ session ∈ s.db.sessions, ∀ choices t, run (step protocol) s choices = some t →
    ∃ after ∈ t.db.sessions, after.sessionHash = session.sessionHash ∧
      after.expiresAt = session.expiresAt
  accepts : ∀ sessionHash lookup, (findSession sessionHash s.clock s.db).2 = some lookup →
    ∃ session ∈ s.db.sessions, session.sessionHash = sessionHash ∧ session.revokedAt = none ∧
      s.clock < session.expiresAt ∧ s.clock < session.idleExpiresAt ∧
      s.db.accounts session.accountId = some .active ∧
      ∃ identity, s.db.identities session.identityId = some identity ∧ identity.status ≠ .disabled
  never : ∀ session ∈ s.db.sessions,
    (session.revokedAt ≠ none ∨ session.expiresAt ≤ s.clock ∨ session.idleExpiresAt ≤ s.clock ∨
      s.db.accounts session.accountId ≠ some .active) →
    ∀ choices t, run (step protocol) s choices = some t →
      (findSession session.sessionHash t.clock t.db).2 = none
  revokes : ∀ client, ∀ session ∈ s.db.sessions,
    s.sessions client = some ⟨.revokeSession session.sessionHash, .arrived⟩ →
    ∀ s', step protocol s (.advance client) = some s' →
      (∃ after ∈ s'.db.sessions, after.sessionHash = session.sessionHash ∧
        after.revokedAt ≠ none) ∧
      ∀ choices t, run (step protocol) s' choices = some t →
        (findSession session.sessionHash t.clock t.db).2 = none

/-- **Sessions obey their lifecycle** in every state that is reached from any accounts. -/
theorem sessions_lifecycle {accounts : ℕ → Option AccountStatus}
    {identities : ℕ → Option AccountIdentity} {emails : ℕ → Option ℕ} {clock : ℕ}
    (h : run (step protocol) (start (noSessions accounts identities emails) clock) choices =
      some s) :
    Lifecycle s := by
  have hinv : Inv Sound Ready s :=
    (keeps fun _ _ => True).run (inv_start (sound_noSessions accounts identities emails) clock)
      (along_of_forall_mem (fun _ _ _ => trivial) _) h
  have htimely : Timely Made Past s := keepsTime.run
    (timely_start (by simp [Made, noSessions])) h
  refine ⟨hinv.db.single, hinv.db.idle, ?_, fun _ _ => accepted_of_findSession, ?_, ?_⟩
  · intro session hsession choices t hrun
    obtain ⟨-, after, hafter, hgoes⟩ := goesOn_of_run hinv hsession hrun
    exact ⟨after, hafter, hgoes.sessionHash, hgoes.expiresAt⟩
  · intro session hsession hended choices t hrun
    -- an account that is not active has no session that is not revoked
    have hover : Over s.clock session := by
      rcases hended with hrevoked | hexpired | hidle | haccount
      · exact .inl hrevoked
      · exact .inr (.inl hexpired)
      · exact .inr (.inr hidle)
      · exact .inl fun hnone => haccount (hinv.db.active session hsession hnone)
    exact never_accepted hinv hsession hover hrun
  · intro client session hsession hcall s' hstep
    obtain ⟨after, hafter, hhash, hrevoked⟩ := revoked_of_step htimely hsession hcall hstep
    refine ⟨⟨after, hafter, hhash, hrevoked⟩, fun choices t hrun => ?_⟩
    rw [← hhash]
    exact never_accepted ((keeps fun _ _ => True).step _ hinv trivial hstep) hafter
      (.inl hrevoked) hrun

end

/-- A signup, a lookup, and a login, while an operator waits to suspend the account. The session of
the login is about to be revoked. -/
def loginBeforeSuspension : List (Choice Call) := List.flatten
  [[.arrive 0 ⟨.signup 1 1 1 "hash" 10 20, .arrived⟩], advances 0 8,
    [.tick, .arrive 1 ⟨.findSession 10, .arrived⟩], advances 1 1,
    [.tick, .arrive 0 ⟨.login 1 11 21, .arrived⟩,
      .arrive 1 ⟨.setAccountStatus 1 .suspended, .arrived⟩],
    advances 0 3, advances 1 1, advances 0 3,
    [.tick, .arrive 0 ⟨.revokeSession 11, .arrived⟩]]

lemma loginBeforeSuspension_sessions :
    (run (step protocol) (start (noSessions (fun _ => none) (fun _ => none) fun _ => none) 0)
      loginBeforeSuspension).bind (fun s => (step protocol s (.advance 0)).map fun s' =>
        (s.sessions 0, s.db.sessions, s'.db.sessions)) =
      some (some ⟨.revokeSession 11, .arrived⟩,
        [⟨1, 1, 10, 20, 0, 28800, 1801, some 2⟩, ⟨1, 1, 11, 21, 2, 28802, 1802, none⟩],
        [⟨1, 1, 10, 20, 0, 28800, 1801, some 2⟩, ⟨1, 1, 11, 21, 2, 28802, 1802, some 3⟩]) := by
  decide +kernel

theorem sessions_lifecycle_login : ∃ s s',
    run (step protocol) (start (noSessions (fun _ => none) (fun _ => none) fun _ => none) 0)
      loginBeforeSuspension = some s ∧
    s.sessions 0 = some ⟨.revokeSession 11, .arrived⟩ ∧
    s.db.sessions = [⟨1, 1, 10, 20, 0, 28800, 1801, some 2⟩, ⟨1, 1, 11, 21, 2, 28802, 1802, none⟩] ∧
    step protocol s (.advance 0) = some s' ∧
    s'.db.sessions =
      [⟨1, 1, 10, 20, 0, 28800, 1801, some 2⟩, ⟨1, 1, 11, 21, 2, 28802, 1802, some 3⟩] ∧
    Lifecycle s := by
  obtain ⟨s, hrun, hstep⟩ := Option.bind_eq_some_iff.mp loginBeforeSuspension_sessions
  obtain ⟨s', hstep, hresult⟩ := Option.map_eq_some_iff.mp hstep
  simp only [Prod.mk.injEq] at hresult
  obtain ⟨hcall, hsessions, hsessions'⟩ := hresult
  exact ⟨s, s', hrun, hcall, hsessions, hstep, hsessions', sessions_lifecycle hrun⟩

end MotherApi.SessionLifecycle
