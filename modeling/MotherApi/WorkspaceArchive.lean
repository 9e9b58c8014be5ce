import MotherApi.WorkspaceCommits

/-!
An archived workspace, under requests that run side by side.

A rename is guarded by its own statement, and a member is added under the row of the workspace. A
request on labels takes the status from a statement before its transaction, and does not look
again. So an archived workspace is left as it is, and can be restored, in the runs in which it is
not archived while a request is under way that then commits a change of the labels.
-/

namespace MotherApi.WorkspaceArchive

open MotherApi.Lib.Runs MotherApi.Lib.Transactions MotherApi.Strings MotherApi.Workspaces
open MotherApi.WorkspaceCommits

/-! ### Requests on labels -/

def isLabelRequest : Request → Bool
  | .addLabel _ _ | .removeLabel _ _ => true
  | _ => false

/-- The request has read the workspace, found it active, and has not failed since. -/
def sawActive : Phase → Bool
  | .arrived | .sawWorkspace .archived | .unchanged _ | .refused => false
  | _ => true

/-- A request on labels between its reading of an active workspace and its end. -/
def underWay (session : Session) : Bool := isLabelRequest session.request && sawActive session.phase

variable {lower : String → String}

/-- A request is under way from where it reads an active workspace on. -/
lemma underWay_leads {session session' : Session} (hleads : (session.next lower).Leads session')
    (h : underWay session' = true) : underWay session = true ∨
      isLabelRequest session.request = true ∧ session.phase = .arrived := by
  rw [underWay, Bool.and_eq_true, request_leads hleads] at h
  obtain ⟨hlabel, hsaw⟩ := h
  obtain ⟨request, eventId, phase⟩ := session
  cases phase with
  | arrived => exact .inr ⟨hlabel, rfl⟩
  | sawWorkspace status =>
    cases status with
    | active => exact .inl (by simpa [underWay, sawActive] using hlabel)
    | archived =>
      cases request with
      | addLabel memberId label =>
        obtain ⟨db, rfl⟩ := hleads
        cases hnormal : normalizeRequired label 64 <;>
          simp [Session.enter, hnormal, sawActive] at hsaw
      | removeLabel memberId label =>
        obtain ⟨db, rfl⟩ := hleads
        simp [Session.enter, sawActive] at hsaw
      | _ => cases hlabel
  | unchanged | refused => exact hleads.elim
  | _ => exact .inl (by simpa [underWay, sawActive] using hlabel)

lemma next_arrived {session : Session} (hlabel : isLabelRequest session.request = true)
    (hphase : session.phase = .arrived) : session.next lower =
      .read fun db => session.enter (db.status.elim .refused .sawWorkspace) := by
  obtain ⟨request, eventId, phase⟩ := session
  obtain rfl : phase = .arrived := hphase
  cases request with
  | addLabel | removeLabel => rfl
  | _ => cases hlabel

/-- The workspace that a request reads is active if the request is then under way. -/
lemma active_of_underWay {session : Session} {db : Db}
    (h : underWay (session.enter (db.status.elim .refused .sawWorkspace)) = true) :
    db.status = some .active := by
  rw [underWay, Bool.and_eq_true] at h
  cases hstatus : db.status with
  | none => simp [Session.enter, hstatus, sawActive] at h
  | some status =>
    cases status with
    | active => rfl
    | archived => simp [Session.enter, hstatus, sawActive] at h

/-! ### The condition and the invariant -/

def isLabelWrite : Write → Bool
  | .addLabel _ _ | .removeLabel _ _ => true
  | _ => false

/-- The request commits a change of the labels next. -/
def CommitsLabel (req : Session) : Prop :=
  ∃ write event, req.phase = .logged write event ∧ isLabelWrite write = true

/-- The workspace is archived while the request of the session is under way. -/
def ArchivedDuring (session : ℕ) (s : State Db Session Key) : Choice Session → Prop
  | .advance archiver =>
    (∃ req event, s.sessions archiver = some req ∧
      req.phase = .logged (.setStatus .archived) event) ∧
      ∃ req, s.sessions session = some req ∧ underWay req = true
  | _ => False

/-- The workspace has been archived since the request of the session came under way. -/
def ArchivedSince (lower : String → String) (session : ℕ) (choices : List (Choice Session)) :
    Prop :=
  Since (step (protocol lower)) (ArchivedDuring session) (Stays session) (start noWorkspace 0)
    choices

/-- No change of the labels is committed by a request that was under way when the workspace was
archived. -/
def Undisturbed (lower : String → String) (choices : List (Choice Session)) : Prop :=
  ∀ before session rest t req, choices = before ++ .advance session :: rest →
    After lower before t → t.sessions session = some req → CommitsLabel req →
      ¬ArchivedSince lower session before

lemma status_commitWrite {db db' : Db} {write : Write} {event : ActivityEvent}
    (h : Commits lower db write event db') (hactive : db.status = some .active)
    (hne : write ≠ .setStatus .archived) : db'.status = some .active := by
  obtain ⟨workspace, hworkspace, hstatus⟩ := Option.map_eq_some_iff.mp hactive
  rw [h.result, Db.status, commitWrite_workspace]
  cases write with
  | create =>
    have hnone := h.guard.1
    rw [hworkspace] at hnone
    cases hnone
  | setStatus status =>
    cases status with
    | active => simp [Write.apply, hworkspace]
    | archived => exact absurd rfl hne
  | rename => simpa [Write.apply, hworkspace] using hstatus
  | _ => exact hactive

/-! ### Runs -/

section

variable {s s' : State Db Session Key} {choices : List (Choice Session)}

/-- What a step may do to an archived workspace: nothing, or restore it. -/
def LeavesArchived (s s' : State Db Session Key) (c : Choice Session) : Prop :=
  s'.db = s.db ∨
    (s'.db.workspace = s.db.workspace.map (fun workspace => { workspace with status := .active }) ∧
      s'.db.members = s.db.members ∧ s'.db.labels = s.db.labels ∧
      ∃ session req, c = .advance session ∧ s.sessions session = some req ∧
        req.request = .setArchived false)

/-- In every run, whoever changes an archived workspace restores it, or changes its labels with
the status of before. -/
lemma step_archived (h : After lower choices s) (harchived : s.db.status = some .archived)
    {c : Choice Session} (hstep : step (protocol lower) s c = some s') : LeavesArchived s s' c ∨
      ∃ session req, c = .advance session ∧ s.sessions session = some req ∧
        underWay req = true ∧ CommitsLabel req := by
  rcases step_commits (inv_of_after h) hstep with hsame |
    ⟨session, req, write, event, rfl, hreq, hphase, -, hcommits⟩
  · exact .inl (.inl hsame)
  have hown : IsFor write req.request := by
    simpa [Own, hphase] using own_of_after h hreq
  have hguard := hcommits.guard
  cases write with
  | create =>
    rw [Db.status, hguard.1] at harchived
    cases harchived
  | rename =>
    rw [Guard, harchived] at hguard
    cases hguard
  | addMember =>
    rw [Guard, harchived] at hguard
    cases hguard.1
  | setStatus status =>
    obtain ⟨current, hcurrent, hne⟩ := hguard
    rw [harchived] at hcurrent
    cases hcurrent
    obtain rfl : status = .active := by cases status <;> simp_all
    refine .inl (.inr ⟨?_, ?_, ?_, session, req, rfl, hreq, ?_⟩)
    · rw [hcommits.result]
      rfl
    · rw [hcommits.result]
      rfl
    · rw [hcommits.result]
      rfl
    · cases hrequest : req.request <;> simp_all [IsFor, Session.target]
  | addLabel | removeLabel =>
    refine .inr ⟨session, req, rfl, hreq, ?_, _, _, hphase, rfl⟩
    cases hrequest : req.request <;>
      simp_all [IsFor, underWay, isLabelRequest, sawActive]

/-- What a request on labels relies on: the workspace is active, or it was archived behind its
back. -/
def Warned (lower : String → String) (choices : List (Choice Session))
    (s : State Db Session Key) : Prop :=
  ∀ session req, s.sessions session = some req → underWay req = true →
    s.db.status = some .active ∨ ArchivedSince lower session choices

/-- **One step**: only an archive takes the active workspace from a request that is under way. -/
lemma warned_step (h : After lower choices s) (hwarned : Warned lower choices s)
    {c : Choice Session} (hstep : step (protocol lower) s c = some s') :
    Warned lower (choices ++ [c]) s' := by
  have hkept : KeptOrBroken (protocol lower) (underWay · = true)
      (fun db => db.status = some .active) ArchivedDuring (start noWorkspace 0) choices s := hwarned
  refine hkept.after_step h hstep ?_ ?_ ?_
  · intro req hnew hway
    have harrived : req.phase = .arrived := by simpa [protocol] using hnew
    simp [underWay, harrived, sawActive] at hway
  · intro req req' hleads hway
    rcases underWay_leads hleads hway with hbefore | ⟨hlabel, hphase⟩
    · exact .inl hbefore
    · -- the statement that has just read the workspace
      refine .inr fun db hread => ?_
      rw [hread _ (next_arrived hlabel hphase)] at hway
      exact active_of_underWay hway
  · intro session req hreq hway hactive
    rcases step_commits (inv_of_after h) hstep with hdb |
      ⟨archiver, other, write, event, rfl, hother, hphase, -, hcommits⟩
    · exact .inl (hdb ▸ hactive)
    by_cases harchives : write = .setStatus .archived
    · subst harchives
      exact .inr ⟨⟨other, _, hother, hphase⟩, req, hreq, hway⟩
    · exact .inl (status_commitWrite hcommits hactive harchives)

/-- **A run** warns every request that is under way. -/
theorem warned_of_after (h : After lower choices s) : Warned lower choices s := by
  refine inv_of_history (Warned lower) (by rintro session req ⟨⟩) ?_ h
  intro before c rest t t' _ ht hwarned hstep
  exact warned_step ht hwarned hstep

/-- **An archived workspace is left as it is**, but for its being restored, in every run in which
no change of the labels is committed by a request that was under way when the workspace was
archived. -/
theorem archived_readOnly (h : After lower choices s) {c : Choice Session}
    (hstep : step (protocol lower) s c = some s')
    (hundisturbed : Undisturbed lower (choices ++ [c]))
    (harchived : s.db.status = some .archived) : LeavesArchived s s' c := by
  rcases step_archived h harchived hstep with hleaves | ⟨session, req, rfl, hreq, hway, hlabel⟩
  · exact hleaves
  rcases warned_of_after h session req hreq hway with hactive | hsince
  · rw [harchived] at hactive
    cases hactive
  · exact absurd hsince (hundisturbed choices session [] s req rfl h hreq hlabel)

/-! ### Runs with an archive -/

/-- Only the sessions of `kept` commit changes of the labels, and none of them is under way where
the workspace is archived. -/
def Separate (kept : ℕ → Bool) (s : State Db Session Key) : Choice Session → Prop
  | .advance session => ∀ req, s.sessions session = some req →
      (CommitsLabel req → kept session = true) ∧
        ∀ event, req.phase = .logged (.setStatus .archived) event →
          ∀ other req', kept other = true → s.sessions other = some req' → underWay req' = false
  | _ => True

lemma undisturbed_of_separate {kept : ℕ → Bool}
    (h : Along (step (protocol lower)) (Separate kept) (start noWorkspace 0) choices) :
    Undisturbed lower choices := by
  rintro before session rest t req rfl ht hreq hlabel
    ⟨before', c, after, u, u', rfl, hu, -, harchived, -⟩
  have hkept := (along_at h ht req hreq).1 hlabel
  rw [List.append_assoc] at h
  cases c with
  | advance archiver =>
    obtain ⟨⟨other, event, hother, hphase⟩, req', hreq', hway⟩ := harchived
    have hnot := (along_at h hu other hother).2 event hphase session req' hkept hreq'
    rw [hway] at hnot
    cases hnot
  | _ => exact harchived

end

/-- The check of the condition in a run of two sessions. -/
def separate (kept : ℕ → Bool) (s : State Db Session Key) (c : Choice Session) : Bool :=
  arrivesBelow 2 c &&
    match c with
    | .advance session =>
      match (s.sessions session).map Session.phase with
      | some (.logged (.setStatus .archived) _) =>
        (List.range 2).all fun other => !(kept other && (s.sessions other).any underWay)
      | some (.logged write _) => !isLabelWrite write || kept session
      | _ => true
    | _ => true

lemma separate_sound (kept : ℕ → Bool) (s : State Db Session Key) (c : Choice Session)
    (hbelow : Below 2 s) (h : separate kept s c = true) : Separate kept s c := by
  cases c with
  | advance session =>
    intro req hreq
    constructor
    · rintro ⟨write, event, hphase, hlabel⟩
      cases write with
      | addLabel | removeLabel => simpa [separate, hreq, hphase, arrivesBelow, isLabelWrite] using h
      | _ => cases hlabel
    · intro event hphase other req' hkept hother
      have hlt : other < 2 := by
        by_contra hnot
        rw [hbelow other (Nat.le_of_not_lt hnot)] at hother
        cases hother
      simp only [separate, hreq, hphase, Option.map_some, Bool.and_eq_true, List.all_eq_true,
        List.mem_range, Bool.not_eq_true'] at h
      simpa [hother, hkept] using h.2 other hlt
  | _ => trivial

/-- A label is added, and the workspace is archived while another request for a label is under
way, which is then given up. A request to restore the workspace is about to commit. -/
def archiveAfterLabel : List (Choice Session) := List.flatten
  [setup, [arrival 0 (.addLabel "m" "a") "a"], advances 0 7,
    [arrival 0 (.setArchived true) "b", arrival 1 (.addLabel "m" "x") "x"], advances 1 3,
    advances 0 4, [.abort 1, arrival 0 (.setArchived false) "r"], advances 0 3]

lemma archiveAfterLabel_separate :
    checkAlong (step (protocol toAsciiLowercase)) (separate (· == 0)) (start noWorkspace 0)
      (archiveAfterLabel ++ [.advance 0]) = true := by
  decide +kernel

lemma archiveAfterLabel_db :
    (run (step (protocol toAsciiLowercase)) (start noWorkspace 0) archiveAfterLabel).bind
      (fun s => (step (protocol toAsciiLowercase) s (.advance 0)).map fun s' =>
        (s.db.status, s'.db.status)) = some (some .archived, some .active) := by
  decide +kernel

theorem archived_readOnly_restore : ∃ s s', After toAsciiLowercase archiveAfterLabel s ∧
    s.db.status = some .archived ∧ s'.db.status = some .active ∧
    LeavesArchived s s' (.advance 0) := by
  obtain ⟨s, hrun, hstep⟩ := Option.bind_eq_some_iff.mp archiveAfterLabel_db
  obtain ⟨s', hstep, hdb⟩ := Option.map_eq_some_iff.mp hstep
  rw [Prod.mk.injEq] at hdb
  have halong := along_of_checkAlong_inv (Below 2) (separate_sound (· == 0))
    (fun s c s' hbelow hc => below_step hbelow (Bool.and_eq_true_iff.mp hc).1)
    (fun _ _ => rfl) archiveAfterLabel_separate
  exact ⟨s, s', hrun, hdb.1, hdb.2,
    archived_readOnly hrun hstep (undisturbed_of_separate halong) hdb.1⟩

/-- A request for a label finds the workspace active, and commits after it was archived. -/
def archiveDuringLabel : List (Choice Session) := List.flatten
  [setup, [arrival 0 (.addLabel "m" "a") "a", arrival 1 (.setArchived true) "b"], advances 0 2,
    advances 1 4, advances 0 4]

lemma archiveDuringLabel_db :
    (run (step (protocol toAsciiLowercase)) (start noWorkspace 0) archiveDuringLabel).bind
      (fun s => (step (protocol toAsciiLowercase) s (.advance 0)).map fun s' =>
        (s.db.status, s.db.labelsOf "m", s'.db.status, s'.db.labelsOf "m")) =
      some (some .archived, [], some .archived, ["a"]) := by
  decide +kernel

theorem archiveDuringLabel_changes : ∃ s s', After toAsciiLowercase archiveDuringLabel s ∧
    s.db.status = some .archived ∧
    step (protocol toAsciiLowercase) s (.advance 0) = some s' ∧
    s.db.labelsOf "m" = [] ∧ s'.db.labelsOf "m" = ["a"] ∧ ¬LeavesArchived s s' (.advance 0) := by
  obtain ⟨s, hrun, hstep⟩ := Option.bind_eq_some_iff.mp archiveDuringLabel_db
  obtain ⟨s', hstep, hdb⟩ := Option.map_eq_some_iff.mp hstep
  obtain ⟨hstatus, hlabels, -, hlabels'⟩ := by simpa only [Prod.mk.injEq] using hdb
  have hchanged : s'.db.labels ≠ s.db.labels := by
    intro heq
    rw [Db.labelsOf, heq, ← Db.labelsOf, hlabels] at hlabels'
    cases hlabels'
  refine ⟨s, s', hrun, hstatus, hstep, hlabels, hlabels', ?_⟩
  rintro (hsame | ⟨-, -, hsame, -⟩)
  · exact hchanged (by rw [hsame])
  · exact hchanged hsame

end MotherApi.WorkspaceArchive
